import DoorIntercom.Call.TcpClient
import DoorIntercom.Audio.Playback

/-!
# The receive loops at the end of a stream

`SocketThread.run` of `TcpClient`, `ServerReceiveThread.run` of `TcpServer` and `SocketThread.run`
of `TcpPcm` read in a loop until the connection is closed **locally**: the condition tests flags
that only the own side sets, and `isConnected`, which stays true when the other side has closed the
connection. At the end of the stream `read` returns -1, which hands nothing on and leaves nothing.

So the loops end only if their condition fails at once, there is no stream, or a read throws
(`ReceiveLoop.leaves_iff`). After the last byte they go round without doing anything
(`ReceiveLoop.after_ofReads`).

The fields are those of the thread's object; nobody else assigns to them while the loop runs, as
there is no local disconnect.
-/

namespace DoorIntercom

/-- How a `read` ends; `size` is positive. -/
inductive ReadResult
  | size (bytes : List Byte)
  | endOfStream
  | ioException
  deriving DecidableEq, Repr

/-- An input stream, by the results of the reads that are still to come. -/
abbrev InputStream := ℕ → ReadResult

namespace InputStream

/-- The stream after a read. -/
def rest (stream : InputStream) : InputStream := fun n ↦ stream (n + 1)

/-- A finite sequence of reads, and then the end of the stream. -/
def ofReads (reads : List (List Byte)) : InputStream :=
  fun n ↦ (reads[n]?).elim .endOfStream .size

@[simp] theorem ofReads_nil (n : ℕ) : ofReads [] n = .endOfStream := rfl

@[simp] theorem ofReads_cons_zero (bytes : List Byte) (reads : List (List Byte)) :
    ofReads (bytes :: reads) 0 = .size bytes := rfl

@[simp] theorem rest_ofReads_nil : rest (ofReads []) = ofReads [] := rfl

@[simp] theorem rest_ofReads_cons (bytes : List Byte) (reads : List (List Byte)) :
    rest (ofReads (bytes :: reads)) = ofReads reads := rfl

theorem ofReads_ne_ioException (reads : List (List Byte)) (n : ℕ) :
    ofReads reads n ≠ .ioException := by
  rw [ofReads]
  cases reads[n]? <;> exact fun h ↦ nomatch h

end InputStream

/-! ### The loop -/

/-- What the receive loops differ in: the condition on the fields `φ`, and what is done, of the kind
`δ`, with the bytes of a read and when one throws. -/
structure ReceiveLoop (φ δ : Type) where
  condition : φ → Bool
  onData : φ → List Byte → List δ
  onIOException : List δ

/-- A thread in its receive loop, with what it has done. -/
structure Receiving (φ δ : Type) where
  fields : φ
  mInputStream : Option InputStream
  done : List δ

namespace ReceiveLoop

variable {φ δ : Type} (loop : ReceiveLoop φ δ)

/-- What is done after a read. -/
def handOn (fields : φ) (bytes : List Byte) : List δ :=
  if 0 < bytes.length then loop.onData fields bytes else []

/-- One turn of the loop; on the right, the loop has been left. -/
def turn (s : Receiving φ δ) : Receiving φ δ ⊕ Receiving φ δ :=
  if loop.condition s.fields then
    match s.mInputStream with
    | none => .inr s
    | some stream =>
      match stream 0 with
      | .size bytes =>
        .inl { s with
          mInputStream := some stream.rest
          done := s.done ++ loop.handOn s.fields bytes }
      | .endOfStream => .inl { s with mInputStream := some stream.rest }
      | .ioException =>
        .inr { s with
          mInputStream := some stream.rest
          done := s.done ++ loop.onIOException }
  else .inr s

/-- The thread after a number of turns, or when it has left the loop. -/
def after : ℕ → Receiving φ δ → Receiving φ δ ⊕ Receiving φ δ
  | 0, s => .inl s
  | n + 1, s =>
    match loop.turn s with
    | .inl s' => after n s'
    | .inr s' => .inr s'

/-- The loop is left after finitely many turns. -/
def Leaves (s : Receiving φ δ) : Prop := ∃ n s', loop.after n s = .inr s'

variable {loop} {fields : φ} {done : List δ} {stream : InputStream} {s s' : Receiving φ δ}

theorem after_succ_of_inl (h : loop.turn s = .inl s') (n : ℕ) :
    loop.after (n + 1) s = loop.after n s' := by
  rw [after, h]

theorem Leaves.of_inr (h : loop.turn s = .inr s') : loop.Leaves s :=
  ⟨1, s', by rw [after, h]⟩

theorem Leaves.of_inl (h : loop.turn s = .inl s') (hleaves : loop.Leaves s') : loop.Leaves s := by
  obtain ⟨n, t, hn⟩ := hleaves
  exact ⟨n + 1, t, by rw [after_succ_of_inl h, hn]⟩

/-- **A turn that goes on** has met the condition and read without an exception, and leaves the
fields as they are. -/
theorem exists_of_turn_eq_inl (h : loop.turn s = .inl s') :
    loop.condition s.fields = true ∧ s'.fields = s.fields ∧ ∃ stream, s.mInputStream = some stream ∧
      stream 0 ≠ .ioException ∧ s'.mInputStream = some stream.rest := by
  rw [turn] at h
  split at h
  · rename_i hcondition
    refine ⟨hcondition, ?_⟩
    cases hstream : s.mInputStream with
    | none =>
      rw [hstream] at h
      cases h
    | some stream =>
      rw [hstream] at h
      cases hread : stream 0 with
      | size bytes =>
        simp only [hread, Sum.inl.injEq] at h
        subst h
        exact ⟨rfl, stream, rfl, by simp [hread], rfl⟩
      | endOfStream =>
        simp only [hread, Sum.inl.injEq] at h
        subst h
        exact ⟨rfl, stream, rfl, by simp [hread], rfl⟩
      | ioException =>
        simp only [hread] at h
        cases h
  · cases h

/-- **A turn that leaves the loop** has failed the condition, found no stream, or met an
exception. -/
theorem cases_of_turn_eq_inr (h : loop.turn s = .inr s') :
    loop.condition s.fields = false ∨ s.mInputStream = none ∨
      ∃ stream, s.mInputStream = some stream ∧ stream 0 = .ioException := by
  cases hcondition : loop.condition s.fields with
  | false => exact Or.inl rfl
  | true =>
    cases hstream : s.mInputStream with
    | none => exact Or.inr (Or.inl rfl)
    | some stream =>
      refine Or.inr (Or.inr ⟨stream, rfl, ?_⟩)
      cases hread : stream 0 <;> simp [turn, hcondition, hstream, hread] at h ⊢

/-- A loop is left at an exception, or before it. -/
theorem leaves_of_ioException (hstream : s.mInputStream = some stream) {n : ℕ}
    (hn : stream n = .ioException) : loop.Leaves s := by
  induction n generalizing s stream with
  | zero =>
    cases hturn : loop.turn s with
    | inl s' =>
      obtain ⟨-, -, stream', hstream', hread, -⟩ := exists_of_turn_eq_inl hturn
      rw [hstream] at hstream'
      cases hstream'
      exact absurd hn hread
    | inr s' => exact .of_inr hturn
  | succ n ih =>
    cases hturn : loop.turn s with
    | inl s' =>
      obtain ⟨-, -, stream', hstream', -, hrest⟩ := exists_of_turn_eq_inl hturn
      rw [hstream] at hstream'
      cases hstream'
      exact .of_inl hturn (ih hrest hn)
    | inr s' => exact .of_inr hturn

/-- **When a receive loop ends**: only the condition, a missing stream or an exception ends it. -/
theorem leaves_iff : loop.Leaves s ↔ loop.condition s.fields = false ∨ s.mInputStream = none ∨
    ∃ stream, s.mInputStream = some stream ∧ ∃ n, stream n = .ioException := by
  constructor
  · rintro ⟨n, t, hn⟩
    induction n generalizing s with
    | zero => cases hn
    | succ n ih =>
      rw [after] at hn
      cases hturn : loop.turn s with
      | inl s' =>
        rw [hturn] at hn
        obtain ⟨hcondition, hfields, stream, hstream, -, hrest⟩ := exists_of_turn_eq_inl hturn
        rcases ih hn with hfalse | hnone | ⟨rest, hsome, m, hm⟩
        · rw [hfields, hcondition] at hfalse
          cases hfalse
        · rw [hrest] at hnone
          cases hnone
        · rw [hrest] at hsome
          cases hsome
          exact Or.inr (Or.inr ⟨stream, hstream, m + 1, hm⟩)
      | inr s' =>
        exact (cases_of_turn_eq_inr hturn).imp_right fun hrest ↦
          hrest.imp_right fun ⟨stream, hstream, hread⟩ ↦ ⟨stream, hstream, 0, hread⟩
  · rintro (hfalse | hnone | ⟨stream, hstream, n, hn⟩)
    · exact .of_inr (by rw [turn, if_neg (by rw [hfalse]; exact Bool.false_ne_true)])
    · by_cases hcondition : loop.condition s.fields = true
      · have hturn : loop.turn s = .inr s := by rw [turn, if_pos hcondition, hnone]
        exact .of_inr hturn
      · exact .of_inr (by rw [turn, if_neg hcondition])
    · exact leaves_of_ioException hstream hn

/-- **At the end of the stream**, the loop has handed on all that was read, and goes round. -/
theorem after_ofReads (hcondition : loop.condition fields = true) (reads : List (List Byte))
    (done : List δ) (n : ℕ) :
    loop.after (reads.length + n) ⟨fields, some (.ofReads reads), done⟩ =
      .inl ⟨fields, some (.ofReads []), done ++ reads.flatMap (loop.handOn fields)⟩ := by
  induction reads generalizing done with
  | nil =>
    rw [List.length_nil, Nat.zero_add, List.flatMap_nil, List.append_nil]
    induction n with
    | zero => rfl
    | succ n ih =>
      refine (after_succ_of_inl ?_ n).trans ih
      rw [turn, if_pos hcondition]
      rfl
  | cons bytes reads ih =>
    rw [List.length_cons, Nat.add_right_comm, List.flatMap_cons, ← List.append_assoc]
    refine (after_succ_of_inl ?_ _).trans (ih _)
    rw [turn, if_pos hcondition]
    rfl

/-- **If no read throws**, only the condition ends the loop. -/
theorem leaves_ofReads_iff {reads : List (List Byte)} :
    loop.Leaves ⟨fields, some (.ofReads reads), done⟩ ↔ loop.condition fields = false := by
  rw [leaves_iff]
  constructor
  · rintro (hfalse | hnone | ⟨stream, hstream, n, hn⟩)
    · exact hfalse
    · cases hnone
    · cases hstream
      exact absurd hn (InputStream.ofReads_ne_ioException reads n)
  · exact Or.inl

end ReceiveLoop

/-! ### The three loops -/

/-- A `java.net.Socket`. -/
structure Socket where
  isConnected : Bool
  deriving DecidableEq, Repr

/-- `isConnect()` of the three classes, on their socket. -/
def isConnect (mSocket : Option Socket) : Bool :=
  match mSocket with
  | some socket => socket.isConnected
  | none => false

/-- A new array of a length, after a read into it. -/
def readArray (length : ℕ) (bytes : List Byte) : List Byte :=
  bytes ++ List.replicate (length - bytes.length) 0#8

/-- What the threads of the command connections post: -1, or 100 with the data. -/
inductive HandlerMessage
  | connectError
  | receiveData (data : List Byte) (size : ℕ) (requestCode : Option ℤ)
  deriving DecidableEq, Repr

namespace TcpClient

/-- The fields of the thread and of its client. -/
structure Fields where
  mSocket : Option Socket
  isStop : Bool
  isInterrupted : Bool
  requestCode : ℤ
  deriving DecidableEq, Repr

/-- The loop of `SocketThread.run`. -/
def SocketThread.run : ReceiveLoop Fields HandlerMessage where
  condition fields := isConnect fields.mSocket && !fields.isStop && !fields.isInterrupted
  onData fields bytes :=
    [.receiveData (readArray 1024 bytes) bytes.length (some fields.requestCode)]
  onIOException := [.connectError]

end TcpClient

namespace TcpServer

/-- The fields of the server. -/
structure Fields where
  clientScoket : Option Socket
  isConnect : Bool
  deriving DecidableEq, Repr

/-- The loop of `ServerReceiveThread.run`. -/
def ServerReceiveThread.run : ReceiveLoop Fields HandlerMessage where
  condition fields := fields.isConnect && isConnect fields.clientScoket
  onData _ bytes := [.receiveData (readArray 1024 bytes) bytes.length none]
  onIOException := [.connectError]

end TcpServer

namespace TcpPcm

/-- The fields of the thread and of its connection. -/
structure Fields where
  mSocket : Option Socket
  isStop : Bool
  isInterrupted : Bool
  deriving DecidableEq, Repr

/-- What is done with an array. -/
inductive Action
  | startPlay (buffer : Playback.Buffer)
  | save (buffer : List Byte)

/-- The loop of `SocketThread.run`. -/
def SocketThread.run : ReceiveLoop Fields Action where
  condition fields := isConnect fields.mSocket && !fields.isStop && !fields.isInterrupted
  onData _ bytes :=
    [.startPlay (Playback.Buffer.zeros.fill bytes),
      .save (Playback.Buffer.zeros.fill bytes).bytes]
  onIOException := []

/-- The array that is played. -/
def Action.played : Action → Option Playback.Buffer
  | startPlay buffer => some buffer
  | save _ => none

/-- When it goes round at the end of the stream, the loop has played what was received. -/
theorem played_after_ofReads {fields : Fields} (h : SocketThread.run.condition fields = true)
    (reads : List (List Byte)) (n : ℕ) :
    ∃ done, SocketThread.run.after (reads.length + n) ⟨fields, some (.ofReads reads), []⟩ =
        .inl ⟨fields, some (.ofReads []), done⟩ ∧
      done.filterMap Action.played = Playback.run reads := by
  refine ⟨_, ReceiveLoop.after_ofReads h reads [] n, ?_⟩
  rw [List.nil_append]
  induction reads with
  | nil => rfl
  | cons bytes reads ih =>
    rw [List.flatMap_cons, List.filterMap_append, ih, Playback.run, ReceiveLoop.handOn]
    split_ifs <;> rfl

end TcpPcm

/-! ### In the client with its threads -/

section Client

variable {α : Type}

/-- The fields that a socket thread of the client tests. -/
def ClientState.loopFields (s : ClientState α) (t : SocketThread) (requestCode : ℤ) :
    TcpClient.Fields :=
  ⟨s.mSocket.map fun _ ↦ ⟨true⟩, s.isStop, t.isInterrupted, requestCode⟩

/-- **A socket thread whose condition holds** goes round in the client too: as long as only this
thread runs, and its reads neither throw nor bring a command, nothing changes. -/
theorem exec_socketThread_spins {s : ClientState α} {i socket : ℕ} {t : SocketThread}
    {requestCode : ℤ} (ht : s.socketThreads[i]? = some t) (hpc : t.pc = .loop)
    (hcrashed : s.crashed = false) (hstream : s.mInputStream = some socket)
    (hopen : socket ∈ s.openSockets)
    (hcondition : TcpClient.SocketThread.run.condition (s.loopFields t requestCode) = true)
    (n : ℕ) :
    (client α).exec s (List.replicate (2 * n) (.socketThread i .returns)) = some s := by
  have hflags : (s.isConnect && !s.isStop && !t.isInterrupted) = true := by
    rw [← hcondition]
    simp only [TcpClient.SocketThread.run, ClientState.loopFields, ClientState.isConnect]
    cases s.mSocket <;> rfl
  obtain ⟨hlt, hget⟩ := List.getElem?_eq_some_iff.1 ht
  have hback : (s.goto i t .read).goto i { t with pc := .read } .loop = s := by
    have hset : (s.socketThreads.set i { t with pc := .read }).set i { t with pc := .loop } =
        s.socketThreads := by
      rw [List.set_set, ← hpc, ← hget]
      exact List.set_getElem_self hlt
    simp only [ClientState.goto, hset]
  have hloop : (client α).step s (.socketThread i .returns) = some (s.goto i t .read) := by
    simp [client, ClientState.step, hcrashed, ht, hpc, ClientState.runSocketThread, hflags]
  have hread : (client α).step (s.goto i t .read) (.socketThread i .returns) = some s := by
    have hthread : (s.goto i t .read).socketThreads[i]? = some { t with pc := .read } :=
      List.getElem?_set_self hlt
    have hrun : (s.goto i t .read).runSocketThread i { t with pc := .read } .returns =
        (s.goto i t .read).goto i { t with pc := .read } .loop := by
      simp [ClientState.runSocketThread, ClientState.goto, hstream, hopen]
    have hstep : (client α).step (s.goto i t .read) (.socketThread i .returns) =
        some ((s.goto i t .read).runSocketThread i { t with pc := .read } .returns) := by
      have hcrashed' : (s.goto i t .read).crashed = false := hcrashed
      simp [client, ClientState.step, hcrashed', hthread]
    rw [hstep, hrun, hback]
  induction n with
  | zero => rfl
  | succ n ih =>
    rw [Nat.mul_succ, List.replicate_succ, List.replicate_succ, TransitionSystem.exec_cons, hloop,
      Option.bind_some, TransitionSystem.exec_cons, hread, Option.bind_some, ih]

end Client

/-! ### The end of the stream -/

/-- **The receive loops do not end when the other side closes.** After any finite sequence of reads
and the end of the stream, each of the three is left only if its condition failed at once. -/
theorem receiveLoops_leave_iff (reads : List (List Byte)) :
    (∀ fields done, TcpClient.SocketThread.run.Leaves ⟨fields, some (.ofReads reads), done⟩ ↔
        ¬ (isConnect fields.mSocket = true ∧ fields.isStop = false ∧
          fields.isInterrupted = false)) ∧
      (∀ fields done,
        TcpServer.ServerReceiveThread.run.Leaves ⟨fields, some (.ofReads reads), done⟩ ↔
          ¬ (fields.isConnect = true ∧ isConnect fields.clientScoket = true)) ∧
      ∀ fields done, TcpPcm.SocketThread.run.Leaves ⟨fields, some (.ofReads reads), done⟩ ↔
        ¬ (isConnect fields.mSocket = true ∧ fields.isStop = false ∧
          fields.isInterrupted = false) := by
  refine ⟨fun fields done ↦ ?_, fun fields done ↦ ?_, fun fields done ↦ ?_⟩
  · rw [ReceiveLoop.leaves_ofReads_iff, ← Bool.not_eq_true]
    simp [TcpClient.SocketThread.run, and_assoc]
  · rw [ReceiveLoop.leaves_ofReads_iff, ← Bool.not_eq_true]
    simp [TcpServer.ServerReceiveThread.run]
  · rw [ReceiveLoop.leaves_ofReads_iff, ← Bool.not_eq_true]
    simp [TcpPcm.SocketThread.run, and_assoc]

/-- Connected, one read, and the other side closes: none of the three loops is left. -/
theorem not_leaves_connected :
    ¬ TcpClient.SocketThread.run.Leaves
        ⟨⟨some ⟨true⟩, false, false, -1⟩, some (.ofReads [[0x01#8, 0x02#8]]), []⟩ ∧
      ¬ TcpServer.ServerReceiveThread.run.Leaves
        ⟨⟨some ⟨true⟩, true⟩, some (.ofReads [[0x01#8, 0x02#8]]), []⟩ ∧
      ¬ TcpPcm.SocketThread.run.Leaves
        ⟨⟨some ⟨true⟩, false, false⟩, some (.ofReads [[0x01#8, 0x02#8]]), []⟩ := by
  refine ⟨?_, ?_, ?_⟩ <;> rw [ReceiveLoop.leaves_ofReads_iff] <;> decide

end DoorIntercom
