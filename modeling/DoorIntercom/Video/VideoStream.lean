import DoorIntercom.Lib.Transition
import DoorIntercom.Video.VideoPacket
import Mathlib.Data.List.Sublists

/-!
# The connections of the video

`TcpVideo` is called by the main thread. `connect` starts a thread that replaces the socket, and a
handler thread that writes the packets which `sendImage` puts into its queue; `close` closes the
socket and quits the handler thread. The threads share `mSocket` and `mOutputStream` without a
lock. The model is a step relation on all of them: a thread goes on by one statement at a time, a
write hands over any number of its bytes at a time, and a call that does input or output may throw.
Over a connection on which a write has failed nothing more goes: what has been cut off there is not
followed by the next packet.

`delivered_of_reachIf` is about the bytes of every connection, over any number of connections: if no
handler thread is still at work when a new one is started, then the receivers together get encoded
units, complete, in order, and none of them twice. Where an old handler thread is still at work,
both write to the new connection, and a receiver may get what nobody has sent
(`mixed_of_two_handlers`).
-/

namespace DoorIntercom

/-! ### The code -/

/-- Where `TcpVideo.SocketThread.run` is. -/
inductive VideoPc
  /-- At `if (mSocket != null)`. -/
  | testOld
  /-- At `mSocket.close()`. -/
  | closeOld
  /-- At `mSocket = null`. -/
  | nullOld
  /-- At `mSocket = new Socket(ipAddress, port)`. -/
  | create
  /-- At `isConnect()`. -/
  | testConnect
  /-- At `mOutputStream = mSocket.getOutputStream()`. -/
  | getOutput
  /-- At `mInputStream = mSocket.getInputStream()`. -/
  | getInput
  | finished
  deriving DecidableEq

/-- What a handler thread does with the message that it has taken from its queue. -/
inductive Handling
  /-- At `if (mOutputStream != null)`. -/
  | taken (data : List Byte)
  /-- At `mOutputStream.write(data)`. -/
  | tested (data : List Byte)
  /-- In `write`, with so many bytes left for this connection. -/
  | writing (socket : ℕ) (rest : List Byte)
  deriving DecidableEq

/-- A `HandlerThread` and the queue of its looper. -/
structure HandlerThread where
  queue : List (List Byte)
  quit : Bool
  current : Option Handling
  deriving DecidableEq

/-- What is left of `TcpVideo.close`. -/
inductive CloseStatement
  /-- `if (mOutputStream != null)`. -/
  | testOutput
  /-- `mOutputStream.flush(); mOutputStream.close()`, which closes the socket. -/
  | closeOutput
  /-- `if (mSocket != null)`. -/
  | testSocket
  /-- `mSocket.close()`. -/
  | closeSocket
  /-- `mSocket = null`. -/
  | nullSocket
  /-- `mHandlerThread.quit()`. -/
  | quit
  deriving DecidableEq

/-- `TcpVideo` with its threads. Sockets are numbered as they are created, and an output stream is
known by its socket. `stream` holds the bytes that have been written to each of them, and `encoded`
the units for which `onPreviewFrame` has come to `sendImage`. -/
structure TcpVideo where
  mSocket : Option ℕ
  mOutputStream : Option ℕ
  /-- `new Socket` has returned so often. -/
  created : ℕ
  /-- The sockets that are not closed and over which no write has failed. -/
  openSockets : List ℕ
  socketThreads : List VideoPc
  /-- The last one is `mHandlerThread`. -/
  handlers : List HandlerThread
  todo : List CloseStatement
  crashed : Bool
  stream : ℕ → List Byte
  encoded : List (List Byte)

/-- A statement of a handler thread. -/
inductive HandlerEvent
  /-- The looper takes the next message. -/
  | take
  | test
  /-- `write` is called. -/
  | start
  /-- `n` bytes are handed over; `write` returns after the last one. -/
  | write (n : ℕ)
  /-- `write` throws. -/
  | fail

/-- What can happen. -/
inductive VideoEvent
  | connect
  | close
  /-- `onPreviewFrame` sends what the encoder has put out. -/
  | encoded (outData : List Byte)
  | mainThread (throws : Bool)
  | socketThread (i : ℕ) (throws : Bool)
  | handlerThread (i : ℕ) (e : HandlerEvent)

namespace TcpVideo

/-- Nothing has been called. -/
def idle : TcpVideo where
  mSocket := none
  mOutputStream := none
  created := 0
  openSockets := []
  socketThreads := []
  handlers := []
  todo := []
  crashed := false
  stream _ := []
  encoded := []

/-- A socket can be written to no more. -/
def drop (s : TcpVideo) (socket : ℕ) : TcpVideo :=
  { s with openSockets := s.openSockets.filter (· ≠ socket) }

/-- A `NullPointerException` that nothing catches. -/
def crash (s : TcpVideo) : TcpVideo := { s with crashed := true }

/-- `connect`: a new socket thread, and `init`. -/
def connect (s : TcpVideo) : TcpVideo :=
  { s with
    socketThreads := s.socketThreads ++ [.testOld]
    handlers := s.handlers ++ [⟨[], false, none⟩] }

/-- `sendImage`: a looper that has quit takes no message. Without a handler the call throws, and
`onPreviewFrame` catches it. -/
def sendImage (s : TcpVideo) (data : List Byte) : TcpVideo :=
  { s with
    handlers := s.handlers.modify (s.handlers.length - 1) fun h ↦
      if h.quit then h else { h with queue := h.queue ++ [data] } }

/-- The packet for `outData` is sent if it could be built. -/
def sendResult (s : TcpVideo) (outData : List Byte) : Except JavaArray.Thrown (List Byte) → TcpVideo
  | .ok testdata => { s.sendImage testdata with encoded := s.encoded ++ [outData] }
  | .error _ => s

/-- The end of `onPreviewFrame`: an exception of the three copies is caught, too. -/
def sendEncoded (s : TcpVideo) (outData : List Byte) : TcpVideo :=
  s.sendResult outData (buildPacket outData)

/-- A statement of `close`. An `IOException` leads behind the `try` block. -/
def runClose (s : TcpVideo) (throws : Bool) : CloseStatement → TcpVideo
  | .testOutput =>
    if s.mOutputStream.isSome then { s with todo := .closeOutput :: s.todo } else s
  | .closeOutput =>
    match s.mOutputStream with
    | some socket => if throws then { s with todo := [.quit] } else s.drop socket
    | none => s.crash
  | .testSocket =>
    if s.mSocket.isSome then { s with todo := .closeSocket :: .nullSocket :: s.todo } else s
  | .closeSocket =>
    match s.mSocket with
    | some socket => if throws then { s with todo := [.quit] } else s.drop socket
    | none => s.crash
  | .nullSocket => { s with mSocket := none }
  | .quit =>
    { s with
      handlers := s.handlers.modify (s.handlers.length - 1) fun h ↦
        { h with queue := [], quit := true } }

/-- The socket thread `i` goes on. -/
def goto (s : TcpVideo) (i : ℕ) (pc : VideoPc) : TcpVideo :=
  { s with socketThreads := s.socketThreads.set i pc }

/-- A statement of `SocketThread.run`. An `IOException` ends it. -/
def runSocketThread (s : TcpVideo) (i : ℕ) (throws : Bool) : VideoPc → TcpVideo
  | .testOld => s.goto i (if s.mSocket.isSome then .closeOld else .create)
  | .closeOld =>
    match s.mSocket with
    | some socket => if throws then s.goto i .finished else (s.drop socket).goto i .nullOld
    | none => s.crash
  | .nullOld => { s with mSocket := none }.goto i .create
  | .create =>
    if throws then s.goto i .finished
    else
      { s with
        mSocket := some s.created
        created := s.created + 1
        openSockets := s.created :: s.openSockets }.goto i .testConnect
  | .testConnect => s.goto i (if s.mSocket.isSome then .getOutput else .finished)
  | .getOutput =>
    match s.mSocket with
    | some socket =>
      if throws then s.goto i .finished
      else { s with mOutputStream := some socket }.goto i .getInput
    | none => s.crash
  | .getInput =>
    match s.mSocket with
    | some _ => s.goto i .finished
    | none => s.crash
  | .finished => s

/-- The handler thread `i` goes on with its message, or is done with it. -/
def handling (s : TcpVideo) (i : ℕ) (h : HandlerThread) (current : Option Handling) : TcpVideo :=
  { s with handlers := s.handlers.set i { h with current } }

/-- A statement of `handleMessage` or of its looper. -/
def runHandler (s : TcpVideo) (i : ℕ) (h : HandlerThread) : HandlerEvent → Option TcpVideo
  | .take =>
    match h.current, h.queue with
    | none, data :: queue => some (s.handling i { h with queue } (some (.taken data)))
    | _, _ => none
  | .test =>
    match h.current with
    | some (.taken data) =>
      some (s.handling i h (if s.mOutputStream.isSome then some (.tested data) else none))
    | _ => none
  | .start =>
    match h.current with
    | some (.tested data) => some (s.handling i h (s.mOutputStream.map (.writing · data)))
    | _ => none
  | .write n =>
    match h.current with
    | some (.writing socket rest) =>
      if socket ∈ s.openSockets ∧ n ≤ rest.length then
        some ({ s with
          stream := Function.update s.stream socket (s.stream socket ++ rest.take n) }.handling i h
            (if n = rest.length then none else some (.writing socket (rest.drop n))))
      else none
    | _ => none
  | .fail =>
    match h.current with
    | some (.writing socket _) => some ((s.drop socket).handling i h none)
    | _ => none

/-- One step. The main thread runs `close` to its end before it does anything else, and a thread
that does not catch an exception ends the program. -/
def step (s : TcpVideo) (e : VideoEvent) : Option TcpVideo :=
  if s.crashed then none
  else
    match e with
    | .connect => if s.todo = [] then some s.connect else none
    | .close =>
      if s.todo = [] then some { s with todo := [.testOutput, .testSocket, .quit] } else none
    | .encoded outData => if s.todo = [] then some (s.sendEncoded outData) else none
    | .mainThread throws =>
      match s.todo with
      | st :: todo => some ({ s with todo }.runClose throws st)
      | [] => none
    | .socketThread i throws => (s.socketThreads[i]?).map (s.runSocketThread i throws)
    | .handlerThread i e => (s.handlers[i]?).bind fun h ↦ s.runHandler i h e

end TcpVideo

/-- The video of one phone. -/
def tcpVideo : TransitionSystem TcpVideo VideoEvent where
  init := TcpVideo.idle
  step := TcpVideo.step

/-- A handler thread is only started when no other one is at work. -/
def OneHandler (s : TcpVideo) (e : VideoEvent) : Prop :=
  e = .connect → ∀ h ∈ s.handlers, h.quit = true ∧ h.current = none

/-! ### Packets that are cut off -/

/-- **A packet that is cut off is no packet.** -/
theorem receivePacket_cut {payload : Payload} {cut rest : List Byte} (hrest : rest ≠ [])
    (h : cut ++ rest = packet payload.1) : receivePacket cut = none := by
  have hpos := List.length_pos_iff.2 hrest
  have hlen : (cut ++ rest).length = payload.1.length + 6 := congrArg List.length h
  rcases cut with _ | ⟨b₀, _ | ⟨b₁, _ | ⟨l₀, _ | ⟨l₁, _ | ⟨l₂, _ | ⟨l₃, cut⟩⟩⟩⟩⟩⟩
  iterate 6 rfl
  -- the length is there, and more bytes than are left
  have hlength : [l₀, l₁, l₂, l₃] = intToByteArray (BitVec.ofNat 32 payload.1.length) :=
    congrArg (fun bytes ↦ (bytes.drop 2).take 4) h
  have hread : readInt [l₀, l₁, l₂, l₃] = payload.1.length := by
    rw [hlength, readInt_intToByteArray (by omega)]
  simp only [List.cons_append, List.length_cons, List.length_append] at hlen
  rw [receivePacket]
  exact dif_neg (by rw [hread]; omega)

/-! ### One handler at work -/

namespace TcpVideo

/-- A handler thread that does nothing any more. -/
abbrev finishedHandler : HandlerThread := ⟨[], true, none⟩

/-- The handler threads, with the last one apart. Before the first one, nothing is to be done. -/
def Last (handlers old : List HandlerThread) (last : HandlerThread) : Prop :=
  handlers = old ++ [last] ∨ handlers = [] ∧ old = [] ∧ last = finishedHandler

/-- What the last handler thread has in its hands. What it has begun to write to a connection that
is still there has arrived, up to what is left. -/
inductive Holding (openSockets : List ℕ) (created : ℕ) (cut : ℕ → List Byte) :
    Option Handling → List Payload → Prop
  | none : Holding openSockets created cut none []
  | taken (p : Payload) : Holding openSockets created cut (some (.taken (packet p.1))) [p]
  | tested (p : Payload) : Holding openSockets created cut (some (.tested (packet p.1))) [p]
  | writing {p : Payload} {k : ℕ} {rest : List Byte} (hk : k < created) (hrest : rest ≠ [])
      (hcut : k ∈ openSockets → cut k ++ rest = packet p.1) :
      Holding openSockets created cut (some (.writing k rest)) [p]

/-- Where the encoded units are: delivered over a connection, in the hands of the last handler
thread, or in its queue. A connection ends with `cut`, which is part of a packet. -/
structure Work where
  old : List HandlerThread
  last : HandlerThread
  delivered : List (ℕ × Payload)
  inHand : List Payload
  waiting : List Payload
  cut : ℕ → List Byte

/-- **The invariant** of one handler at work. -/
structure Delivery (s : TcpVideo) (w : Work) : Prop where
  handlers : Last s.handlers w.old w.last
  old : ∀ h ∈ w.old, h.current = none ∧ h.queue = []
  quit : w.last.quit = true → w.waiting = []
  queue : w.last.queue = w.waiting.map fun p ↦ packet p.1
  holding : Holding s.openSockets s.created w.cut w.last.current w.inHand
  clean : ∀ k ∈ s.openSockets, (∀ rest, w.last.current ≠ some (.writing k rest)) → w.cut k = []
  cut : ∀ k, receivePacket (w.cut k) = none
  fresh : ∀ k, s.created ≤ k → w.cut k = []
  stream : ∀ k, s.stream k =
    ((w.delivered.filter (·.1 = k)).flatMap fun d ↦ packet d.2.1) ++ w.cut k
  openSockets : ∀ k ∈ s.openSockets, k < s.created
  mSocket : ∀ k, s.mSocket = some k → k < s.created
  mOutputStream : ∀ k, s.mOutputStream = some k → k < s.created
  order : ((w.delivered.map Prod.snd ++ w.inHand ++ w.waiting).map Subtype.val).Sublist s.encoded

theorem delivery_idle : Delivery idle ⟨[], finishedHandler, [], [], [], fun _ ↦ []⟩ where
  handlers := Or.inr ⟨rfl, rfl, rfl⟩
  old _ hh := absurd hh List.not_mem_nil
  quit _ := rfl
  queue := rfl
  holding := .none
  clean _ _ _ := rfl
  cut _ := rfl
  fresh _ _ := rfl
  stream _ := rfl
  openSockets _ hk := absurd hk List.not_mem_nil
  mSocket _ hk := by cases hk
  mOutputStream _ hk := by cases hk
  order := List.Sublist.refl _

section Steps

variable {s s' : TcpVideo} {w : Work} {created : ℕ} {openSockets openSockets' : List ℕ}
  {cut : ℕ → List Byte} {current : Option Handling} {ps : List Payload}

/-- A connection less. -/
theorem Holding.mono (h : Holding openSockets created cut current ps)
    (hsub : ∀ k ∈ openSockets', k ∈ openSockets) : Holding openSockets' created cut current ps := by
  cases h with
  | none => exact .none
  | taken p => exact .taken p
  | tested p => exact .tested p
  | writing hk hrest hcut => exact .writing hk hrest fun hopen ↦ hcut (hsub _ hopen)

/-- Steps that are about sockets and threads only. -/
theorem Delivery.congr (h : Delivery s w) (hhandlers : s'.handlers = s.handlers)
    (hcreated : s'.created = s.created) (hsub : ∀ k ∈ s'.openSockets, k ∈ s.openSockets)
    (hstream : s'.stream = s.stream) (hencoded : s'.encoded = s.encoded)
    (hsocket : ∀ k, s'.mSocket = some k → s.mSocket = some k)
    (houtput : ∀ k, s'.mOutputStream = some k →
      s.mOutputStream = some k ∨ s.mSocket = some k) : Delivery s' w where
  handlers := hhandlers ▸ h.handlers
  old := h.old
  quit := h.quit
  queue := h.queue
  holding := hcreated ▸ h.holding.mono hsub
  clean k hk := h.clean k (hsub k hk)
  cut := h.cut
  fresh := hcreated ▸ h.fresh
  stream := hstream ▸ h.stream
  openSockets k hk := hcreated ▸ h.openSockets k (hsub k hk)
  mSocket k hk := hcreated ▸ h.mSocket k (hsocket k hk)
  mOutputStream k hk := hcreated ▸ (houtput k hk).elim (h.mOutputStream k) (h.mSocket k)
  order := hencoded ▸ h.order

/-- A connection is closed or broken. -/
theorem Delivery.drop (h : Delivery s w) (socket : ℕ) : Delivery (s.drop socket) w :=
  h.congr rfl rfl (fun _ hk ↦ (List.mem_filter.1 hk).1) rfl rfl (fun _ hk ↦ hk) fun _ ↦ Or.inl

/-- The last handler thread is changed in place. -/
theorem Last.modify {handlers old : List HandlerThread} {last : HandlerThread}
    (h : Last handlers old last) (f : HandlerThread → HandlerThread)
    (hf : f finishedHandler = finishedHandler) :
    Last (handlers.modify (handlers.length - 1) f) old (f last) := by
  rcases h with rfl | ⟨rfl, rfl, rfl⟩
  · left
    rw [List.length_append, List.length_singleton, Nat.add_sub_cancel]
    exact List.modifyTailIdx_add (List.modifyHead f) 0 old [last]
  · exact Or.inr ⟨rfl, rfl, hf⟩

/-- **A statement of `close`.** -/
theorem Delivery.runClose (h : Delivery s w) (throws : Bool) (st : CloseStatement) :
    ∃ w, Delivery (s.runClose throws st) w := by
  have hsame {s' : TcpVideo} (hhandlers : s'.handlers = s.handlers)
      (hcreated : s'.created = s.created) (hopen : s'.openSockets = s.openSockets)
      (hstream : s'.stream = s.stream) (hencoded : s'.encoded = s.encoded)
      (hsocket : ∀ k, s'.mSocket = some k → s.mSocket = some k)
      (houtput : s'.mOutputStream = s.mOutputStream) : ∃ w, Delivery s' w :=
    ⟨w, h.congr hhandlers hcreated (fun _ hk ↦ hopen ▸ hk) hstream hencoded hsocket
      fun _ hk ↦ Or.inl (houtput ▸ hk)⟩
  cases st with
  | testOutput =>
    rw [TcpVideo.runClose]
    split_ifs
    · exact hsame rfl rfl rfl rfl rfl (fun _ hk ↦ hk) rfl
    · exact ⟨w, h⟩
  | closeOutput =>
    rw [TcpVideo.runClose]
    split
    · split_ifs
      · exact hsame rfl rfl rfl rfl rfl (fun _ hk ↦ hk) rfl
      · exact ⟨w, h.drop _⟩
    · exact hsame rfl rfl rfl rfl rfl (fun _ hk ↦ hk) rfl
  | testSocket =>
    rw [TcpVideo.runClose]
    split_ifs
    · exact hsame rfl rfl rfl rfl rfl (fun _ hk ↦ hk) rfl
    · exact ⟨w, h⟩
  | closeSocket =>
    rw [TcpVideo.runClose]
    split
    · split_ifs
      · exact hsame rfl rfl rfl rfl rfl (fun _ hk ↦ hk) rfl
      · exact ⟨w, h.drop _⟩
    · exact hsame rfl rfl rfl rfl rfl (fun _ hk ↦ hk) rfl
  | nullSocket => exact hsame rfl rfl rfl rfl rfl (fun _ hk ↦ by cases hk) rfl
  | quit =>
    refine ⟨{ w with last := { w.last with queue := [], quit := true }, waiting := [] }, ?_⟩
    exact {
      handlers := h.handlers.modify (fun h ↦ { h with queue := [], quit := true }) rfl
      old := h.old
      quit := fun _ ↦ rfl
      queue := rfl
      holding := h.holding
      clean := h.clean
      cut := h.cut
      fresh := h.fresh
      stream := h.stream
      openSockets := h.openSockets
      mSocket := h.mSocket
      mOutputStream := h.mOutputStream
      order := by
        rw [List.append_nil]
        exact ((List.sublist_append_left _ _).map _).trans h.order }

/-- **A socket is created.** -/
theorem Delivery.create (h : Delivery s w) (i : ℕ) :
    Delivery ({ s with
      mSocket := some s.created
      created := s.created + 1
      openSockets := s.created :: s.openSockets }.goto i .testConnect) w where
  handlers := h.handlers
  old := h.old
  quit := h.quit
  queue := h.queue
  holding := by
    have hholding := h.holding
    revert hholding
    generalize w.last.current = current
    generalize w.inHand = ps
    intro hholding
    cases hholding with
    | none => exact .none
    | taken p => exact .taken p
    | tested p => exact .tested p
    | writing hk hrest hcut =>
      exact .writing (Nat.lt_succ_of_lt hk) hrest fun hopen ↦
        hcut ((List.mem_cons.1 hopen).resolve_left hk.ne)
  clean k hk hcurrent := by
    rcases List.mem_cons.1 hk with rfl | hk
    · exact h.fresh _ (Nat.le_refl _)
    · exact h.clean k hk hcurrent
  cut := h.cut
  fresh k hk := h.fresh k (Nat.le_of_succ_le hk)
  stream := h.stream
  openSockets k hk := by
    rcases List.mem_cons.1 hk with rfl | hk
    · exact Nat.lt_succ_self _
    · exact Nat.lt_succ_of_lt (h.openSockets k hk)
  mSocket k hk := by
    cases hk
    exact Nat.lt_succ_self _
  mOutputStream k hk := Nat.lt_succ_of_lt (h.mOutputStream k hk)
  order := h.order

/-- **A statement of a socket thread.** -/
theorem Delivery.runSocketThread (h : Delivery s w) (i : ℕ) (throws : Bool) (pc : VideoPc) :
    Delivery (s.runSocketThread i throws pc) w := by
  have hgoto {s' : TcpVideo} (hs' : Delivery s' w) (pc : VideoPc) : Delivery (s'.goto i pc) w :=
    hs'.congr rfl rfl (fun _ hk ↦ hk) rfl rfl (fun _ hk ↦ hk) fun _ ↦ Or.inl
  have hcrash : Delivery s.crash w :=
    h.congr rfl rfl (fun _ hk ↦ hk) rfl rfl (fun _ hk ↦ hk) fun _ ↦ Or.inl
  cases pc with
  | testOld => exact hgoto h _
  | closeOld =>
    rw [TcpVideo.runSocketThread]
    split
    · split_ifs
      · exact hgoto h _
      · exact hgoto (h.drop _) _
    · exact hcrash
  | nullOld =>
    have hnull : Delivery { s with mSocket := none } w :=
      h.congr rfl rfl (fun _ hk ↦ hk) rfl rfl (fun _ hk ↦ by cases hk) fun _ ↦ Or.inl
    exact hgoto hnull _
  | create =>
    rw [TcpVideo.runSocketThread]
    split_ifs
    · exact hgoto h _
    · exact h.create i
  | testConnect => exact hgoto h _
  | getOutput =>
    rw [TcpVideo.runSocketThread]
    split
    next socket hsocket =>
      split_ifs
      · exact hgoto h _
      · have houtput : Delivery { s with mOutputStream := some socket } w :=
          h.congr rfl rfl (fun _ hk ↦ hk) rfl rfl (fun _ hk ↦ hk) fun _ hk ↦
            Or.inr (hsocket.trans hk)
        exact hgoto houtput _
    next => exact hcrash
  | getInput =>
    rw [TcpVideo.runSocketThread]
    split
    · exact hgoto h _
    · exact hcrash
  | finished => exact h

/-! ### Messages -/

/-- **A new handler thread**, when no other one is at work. -/
theorem Delivery.connect (h : Delivery s w)
    (hok : ∀ h ∈ s.handlers, h.quit = true ∧ h.current = none) :
    Delivery s.connect
      ⟨s.handlers, ⟨[], false, none⟩, w.delivered, [], [], w.cut⟩ := by
  have hdone : ∀ h ∈ s.handlers, h.current = none ∧ h.queue = [] := by
    intro hd hmem
    refine ⟨(hok hd hmem).2, ?_⟩
    rcases h.handlers with heq | ⟨heq, -, -⟩
    · rcases List.mem_append.1 (heq ▸ hmem) with hold | hlast
      · exact (h.old hd hold).2
      · have hquit := h.quit (List.mem_singleton.1 hlast ▸ (hok hd hmem).1)
        rw [List.mem_singleton.1 hlast, h.queue, hquit]
        rfl
    · exact absurd (heq ▸ hmem) List.not_mem_nil
  have hcurrent : w.last.current = none := by
    rcases h.handlers with heq | ⟨-, -, hlast⟩
    · exact (hdone w.last (heq ▸ List.mem_append_right _ (List.mem_singleton.2 rfl))).1
    · rw [hlast]
  exact {
    handlers := Or.inl rfl
    old := hdone
    quit := fun _ ↦ rfl
    queue := rfl
    holding := .none
    clean := fun k hk _ ↦ h.clean k hk fun rest hrest ↦ by rw [hcurrent] at hrest; cases hrest
    cut := h.cut
    fresh := h.fresh
    stream := h.stream
    openSockets := h.openSockets
    mSocket := h.mSocket
    mOutputStream := h.mOutputStream
    order := by
      have horder := h.order
      rw [List.append_assoc] at horder
      rw [List.append_nil, List.append_nil]
      exact ((List.sublist_append_left _ _).map _).trans horder }

/-- **A packet is sent.** -/
theorem Delivery.sendImage (h : Delivery s w) (p : Payload) :
    ∃ w, Delivery { s.sendImage (packet p.1) with encoded := s.encoded ++ [p.1] } w := by
  have hlast := h.handlers.modify
    (fun h ↦ if h.quit then h else { h with queue := h.queue ++ [packet p.1] }) rfl
  by_cases hquit : w.last.quit = true
  · rw [if_pos hquit] at hlast
    exact ⟨w, { h with
      handlers := hlast
      order := h.order.trans (List.sublist_append_left _ _) }⟩
  · rw [if_neg hquit] at hlast
    refine ⟨{ w with
      last := { w.last with queue := w.last.queue ++ [packet p.1] }
      waiting := w.waiting ++ [p] }, ?_⟩
    exact { h with
      handlers := hlast
      quit := fun hq ↦ absurd hq hquit
      queue := by
        show w.last.queue ++ [packet p.1] = (w.waiting ++ [p]).map fun p ↦ packet p.1
        rw [List.map_append, ← h.queue]
        rfl
      order := by
        show ((w.delivered.map Prod.snd ++ w.inHand ++ (w.waiting ++ [p])).map
          Subtype.val).Sublist (s.encoded ++ [p.1])
        rw [← List.append_assoc, List.map_append]
        exact h.order.append (List.Sublist.refl _) }

/-- **`onPreviewFrame` sends** what the encoder has put out. -/
theorem Delivery.sendEncoded (h : Delivery s w) (outData : List Byte) :
    ∃ w, Delivery (s.sendEncoded outData) w := by
  rw [TcpVideo.sendEncoded]
  generalize hbuild : buildPacket outData = r
  cases r with
  | error _ => exact ⟨w, h⟩
  | ok testdata =>
    have hsize := buildPacket_isOk_iff.1 ⟨testdata, hbuild⟩
    have hpacket : testdata = packet outData :=
      Except.ok.inj (hbuild.symm.trans (buildPacket_eq hsize))
    rw [hpacket]
    exact h.sendImage ⟨outData, hsize⟩

/-! ### The handler thread at work -/

/-- A handler thread is idle, or it is the last one. -/
theorem Delivery.handler {i : ℕ} {hd : HandlerThread} (h : Delivery s w)
    (hget : s.handlers[i]? = some hd) :
    (hd.current = none ∧ hd.queue = []) ∨
      hd = w.last ∧ ∀ hd', Last (s.handlers.set i hd') w.old hd' := by
  rcases h.handlers with heq | ⟨heq, -, -⟩
  · rw [heq] at hget ⊢
    rcases Nat.lt_or_ge i w.old.length with hi | hi
    · rw [List.getElem?_append_left hi] at hget
      exact Or.inl (h.old hd (List.mem_of_getElem? hget))
    · rw [List.getElem?_append_right hi] at hget
      have hzero : i - w.old.length = 0 := by
        by_contra hne
        rw [List.getElem?_eq_none (by rw [List.length_singleton]; omega)] at hget
        cases hget
      rw [hzero] at hget
      refine Or.inr ⟨(Option.some.inj hget).symm, fun hd' ↦ Or.inl ?_⟩
      rw [List.set_append_right _ _ hi, hzero]
      rfl
  · rw [heq] at hget
    cases hget

/-- **The looper takes a message.** -/
theorem Delivery.take {i : ℕ} (h : Delivery s w) (hcurrent : w.last.current = none)
    {data : List Byte} {queue : List (List Byte)} (hqueue : w.last.queue = data :: queue)
    (hset : ∀ hd', Last (s.handlers.set i hd') w.old hd') :
    ∃ w', Delivery (s.handling i { w.last with queue } (some (.taken data))) w' := by
  have hinHand : w.inHand = [] := by
    have hholding := h.holding
    rw [hcurrent] at hholding
    generalize w.inHand = ps at hholding
    cases hholding
    rfl
  obtain ⟨p, waiting, hwaiting, rfl, rfl⟩ := List.map_eq_cons_iff.1 (h.queue ▸ hqueue)
  refine ⟨{ w with
    last := ⟨waiting.map fun p ↦ packet p.1, w.last.quit, some (.taken (packet p.1))⟩
    inHand := [p]
    waiting }, ?_⟩
  exact { h with
    handlers := hset _
    quit := fun hquit ↦ by
      have hnil := h.quit hquit
      rw [hwaiting] at hnil
      cases hnil
    queue := rfl
    holding := .taken p
    clean := fun k hk _ ↦ h.clean k hk fun rest hrest ↦ by rw [hcurrent] at hrest; cases hrest
    order := by
      have horder := h.order
      rw [hinHand, hwaiting, List.append_nil] at horder
      show ((w.delivered.map Prod.snd ++ [p] ++ waiting).map Subtype.val).Sublist s.encoded
      rwa [List.append_assoc] }

/-- The message in hand is dropped. -/
theorem Delivery.discard {i : ℕ} (h : Delivery s w)
    (hclean : ∀ k ∈ s.openSockets, ∀ rest, w.last.current ≠ some (.writing k rest))
    (hset : ∀ hd', Last (s.handlers.set i hd') w.old hd') :
    ∃ w', Delivery (s.handling i w.last none) w' := by
  refine ⟨{ w with last := { w.last with current := none }, inHand := [] }, ?_⟩
  exact { h with
    handlers := hset _
    holding := .none
    clean := fun k hk _ ↦ h.clean k hk (hclean k hk)
    order := by
      have hsub : (w.delivered.map Prod.snd ++ [] ++ w.waiting).Sublist
          (w.delivered.map Prod.snd ++ w.inHand ++ w.waiting) :=
        ((List.Sublist.refl _).append (List.nil_sublist _)).append (List.Sublist.refl _)
      exact (hsub.map _).trans h.order }

/-- The message in hand goes on to `mOutputStream.write`. -/
theorem Delivery.test {i : ℕ} {data : List Byte} (h : Delivery s w)
    (hcurrent : w.last.current = some (.taken data))
    (hset : ∀ hd', Last (s.handlers.set i hd') w.old hd') :
    ∃ w', Delivery (s.handling i w.last (some (.tested data))) w' := by
  have hholding := h.holding
  rw [hcurrent] at hholding
  generalize hps : w.inHand = ps at hholding
  cases hholding with
  | taken p =>
    refine ⟨{ w with last := { w.last with current := some (.tested (packet p.1)) } }, ?_⟩
    exact { h with
      handlers := hset _
      holding := by
        show Holding _ _ _ _ w.inHand
        rw [hps]
        exact .tested p
      clean := fun k hk _ ↦ h.clean k hk fun rest hrest ↦ by rw [hcurrent] at hrest; cases hrest }

theorem packet_ne_nil (payload : List Byte) : packet payload ≠ [] :=
  List.ne_nil_of_length_pos (Nat.zero_lt_succ _)

/-- **`write` is called.** -/
theorem Delivery.start {i k : ℕ} {data : List Byte} (h : Delivery s w)
    (hcurrent : w.last.current = some (.tested data)) (hk : s.mOutputStream = some k)
    (hset : ∀ hd', Last (s.handlers.set i hd') w.old hd') :
    ∃ w', Delivery (s.handling i w.last (some (.writing k data))) w' := by
  have hclean (j : ℕ) (hj : j ∈ s.openSockets) : w.cut j = [] :=
    h.clean j hj fun rest hrest ↦ by rw [hcurrent] at hrest; cases hrest
  have hholding := h.holding
  rw [hcurrent] at hholding
  generalize hps : w.inHand = ps at hholding
  cases hholding with
  | tested p =>
    refine ⟨{ w with last := { w.last with current := some (.writing k (packet p.1)) } }, ?_⟩
    exact { h with
      handlers := hset _
      holding := by
        show Holding _ _ _ _ w.inHand
        rw [hps]
        exact .writing (h.mOutputStream k hk) (packet_ne_nil _) fun hopen ↦ by
          rw [hclean k hopen, List.nil_append]
      clean := fun j hj _ ↦ hclean j hj }

/-- The bytes of the packets that have been delivered over a connection. -/
theorem delivered_concat (delivered : List (ℕ × Payload)) (k j : ℕ) (p : Payload) :
    (((delivered ++ [(k, p)]).filter (·.1 = j)).flatMap fun d ↦ packet d.2.1) =
      ((delivered.filter (·.1 = j)).flatMap fun d ↦ packet d.2.1) ++
        if k = j then packet p.1 else [] := by
  rw [List.filter_append, List.flatMap_append]
  by_cases hkj : k = j <;> simp [hkj]

/-- **Bytes are handed over.** After the last one, the packet is delivered. -/
theorem Delivery.write {i k n : ℕ} {rest : List Byte} (h : Delivery s w)
    (hcurrent : w.last.current = some (.writing k rest)) (hopen : k ∈ s.openSockets)
    (hn : n ≤ rest.length) (hset : ∀ hd', Last (s.handlers.set i hd') w.old hd') :
    ∃ w', Delivery ({ s with
      stream := Function.update s.stream k (s.stream k ++ rest.take n) }.handling i w.last
        (if n = rest.length then none else some (.writing k (rest.drop n)))) w' := by
  have hlt := h.openSockets k hopen
  have hclean (j : ℕ) (hjk : j ≠ k) (hj : j ∈ s.openSockets) : w.cut j = [] :=
    h.clean j hj fun rest hrest ↦ by
      rw [hcurrent] at hrest
      cases hrest
      exact hjk rfl
  have hholding := h.holding
  rw [hcurrent] at hholding
  generalize hps : w.inHand = ps at hholding
  cases hholding with
  | @writing p _ _ hk hrest hcut =>
    have hp := hcut hopen
    by_cases hall : n = rest.length
    · rw [if_pos hall]
      refine ⟨{ w with
        last := { w.last with current := none }
        delivered := w.delivered ++ [(k, p)]
        inHand := []
        cut := Function.update w.cut k [] }, ?_⟩
      exact { h with
        handlers := hset _
        holding := .none
        clean := fun j hj _ ↦ by
          by_cases hjk : j = k
          · rw [hjk]
            exact Function.update_self ..
          · exact (Function.update_of_ne hjk ..).trans (hclean j hjk hj)
        cut := fun j ↦ by
          show receivePacket (Function.update w.cut k [] j) = none
          by_cases hjk : j = k
          · rw [hjk, Function.update_self]
            rfl
          · rw [Function.update_of_ne hjk, h.cut]
        fresh := fun j hj ↦
          (Function.update_of_ne (show j ≠ k from fun heq ↦ absurd (heq ▸ hj) (Nat.not_le.2 hlt))
            ..).trans (h.fresh j hj)
        stream := fun j ↦ by
          show Function.update s.stream k (s.stream k ++ rest.take n) j =
            (((w.delivered ++ [(k, p)]).filter (·.1 = j)).flatMap fun d ↦ packet d.2.1) ++
              Function.update w.cut k [] j
          rw [delivered_concat]
          by_cases hjk : j = k
          · rw [hjk, Function.update_self, Function.update_self, if_pos rfl, h.stream, hall,
              List.take_length, List.append_nil, List.append_assoc, hp]
          · rw [Function.update_of_ne hjk, Function.update_of_ne hjk, if_neg (Ne.symm hjk),
              List.append_nil, h.stream]
        order := by
          have horder := h.order
          have hmap : (w.delivered ++ [(k, p)]).map Prod.snd = w.delivered.map Prod.snd ++ [p] :=
            List.map_append
          show (((w.delivered ++ [(k, p)]).map Prod.snd ++ [] ++ w.waiting).map
            Subtype.val).Sublist s.encoded
          rwa [List.append_nil, hmap, ← hps] }
    · rw [if_neg hall]
      have hdrop : rest.drop n ≠ [] := fun hnil ↦ hall (by
        have hlen := List.drop_eq_nil_iff.1 hnil
        omega)
      have hcut' : w.cut k ++ rest.take n ++ rest.drop n = packet p.1 := by
        rw [List.append_assoc, List.take_append_drop, hp]
      refine ⟨{ w with
        last := { w.last with current := some (.writing k (rest.drop n)) }
        cut := Function.update w.cut k (w.cut k ++ rest.take n) }, ?_⟩
      exact { h with
        handlers := hset _
        holding := by
          show Holding _ _ _ _ w.inHand
          rw [hps]
          refine .writing hk hdrop fun _ ↦ ?_
          show Function.update w.cut k (w.cut k ++ rest.take n) k ++ rest.drop n = packet p.1
          rw [Function.update_self, hcut']
        clean := fun j hj hcurrent' ↦ by
          have hjk : j ≠ k := fun heq ↦ hcurrent' (rest.drop n) (by rw [heq])
          exact (Function.update_of_ne hjk ..).trans (hclean j hjk hj)
        cut := fun j ↦ by
          show receivePacket (Function.update w.cut k (w.cut k ++ rest.take n) j) = none
          by_cases hjk : j = k
          · rw [hjk, Function.update_self, receivePacket_cut hdrop hcut']
          · rw [Function.update_of_ne hjk, h.cut]
        fresh := fun j hj ↦
          (Function.update_of_ne (show j ≠ k from fun heq ↦ absurd (heq ▸ hj) (Nat.not_le.2 hlt))
            ..).trans (h.fresh j hj)
        stream := fun j ↦ by
          show Function.update s.stream k (s.stream k ++ rest.take n) j =
            ((w.delivered.filter (·.1 = j)).flatMap fun d ↦ packet d.2.1) ++
              Function.update w.cut k (w.cut k ++ rest.take n) j
          by_cases hjk : j = k
          · rw [hjk, Function.update_self, Function.update_self, h.stream, List.append_assoc]
          · rw [Function.update_of_ne hjk, Function.update_of_ne hjk, h.stream] }

/-- **A write fails**, and its connection is lost. -/
theorem Delivery.fail {i k : ℕ} {rest : List Byte} (h : Delivery s w)
    (hcurrent : w.last.current = some (.writing k rest))
    (hset : ∀ hd', Last (s.handlers.set i hd') w.old hd') :
    ∃ w', Delivery ((s.drop k).handling i w.last none) w' := by
  refine (h.drop k).discard (fun j hj rest hrest ↦ ?_) hset
  rw [hcurrent] at hrest
  cases hrest
  simp [TcpVideo.drop] at hj

/-- **A statement of a handler thread.** -/
theorem Delivery.runHandler {i : ℕ} {hd : HandlerThread} {e : HandlerEvent} (h : Delivery s w)
    (hget : s.handlers[i]? = some hd) (hs : s.runHandler i hd e = some s') :
    ∃ w', Delivery s' w' := by
  rcases h.handler hget with ⟨hcurrent, hqueue⟩ | ⟨rfl, hset⟩
  · -- an idle handler thread has nothing to do
    cases e <;> simp [TcpVideo.runHandler, hcurrent, hqueue] at hs
  cases e with
  | take =>
    rw [TcpVideo.runHandler] at hs
    split at hs
    next data queue hcurrent hqueue =>
      cases hs
      exact h.take hcurrent hqueue hset
    next => cases hs
  | test =>
    rw [TcpVideo.runHandler] at hs
    split at hs
    next data hcurrent =>
      cases hs
      split_ifs
      · exact h.test hcurrent hset
      · exact h.discard (fun k _ rest hrest ↦ by rw [hcurrent] at hrest; cases hrest) hset
    next => cases hs
  | start =>
    rw [TcpVideo.runHandler] at hs
    split at hs
    next data hcurrent =>
      cases hs
      cases hk : s.mOutputStream with
      | some k => exact h.start hcurrent hk hset
      | none => exact h.discard (fun k _ rest hrest ↦ by rw [hcurrent] at hrest; cases hrest) hset
    next => cases hs
  | write n =>
    rw [TcpVideo.runHandler] at hs
    split at hs
    next k rest hcurrent =>
      simp only [Option.ite_none_right_eq_some, Option.some.injEq] at hs
      obtain ⟨⟨hopen, hn⟩, rfl⟩ := hs
      exact h.write hcurrent hopen hn hset
    next => cases hs
  | fail =>
    rw [TcpVideo.runHandler] at hs
    split at hs
    next k rest hcurrent =>
      cases hs
      exact h.fail hcurrent hset
    next => cases hs

/-- **Every step** with one handler at work keeps the invariant. -/
theorem Delivery.step {e : VideoEvent} (h : Delivery s w) (hok : OneHandler s e)
    (hs : s.step e = some s') : ∃ w', Delivery s' w' := by
  have htodo (todo : List CloseStatement) : Delivery { s with todo } w :=
    h.congr rfl rfl (fun _ hk ↦ hk) rfl rfl (fun _ hk ↦ hk) fun _ ↦ Or.inl
  unfold TcpVideo.step at hs
  by_cases hcrashed : s.crashed = true
  · rw [if_pos hcrashed] at hs
    cases hs
  rw [if_neg hcrashed] at hs
  cases e with
  | connect =>
    simp only [Option.ite_none_right_eq_some, Option.some.injEq] at hs
    exact ⟨_, hs.2 ▸ h.connect (hok rfl)⟩
  | close =>
    simp only [Option.ite_none_right_eq_some, Option.some.injEq] at hs
    exact ⟨w, hs.2 ▸ htodo _⟩
  | encoded outData =>
    simp only [Option.ite_none_right_eq_some, Option.some.injEq] at hs
    exact hs.2 ▸ h.sendEncoded outData
  | mainThread throws =>
    simp only at hs
    split at hs
    · cases hs
      exact (htodo _).runClose throws _
    · cases hs
  | socketThread i throws =>
    obtain ⟨pc, -, rfl⟩ := Option.map_eq_some_iff.1 hs
    exact ⟨w, h.runSocketThread i throws pc⟩
  | handlerThread i e =>
    obtain ⟨hd, hget, hrun⟩ := Option.bind_eq_some_iff.1 hs
    exact h.runHandler hget hrun

end Steps

end TcpVideo

/-! ### What is received -/

/-- **Only encoded units arrive**, in order, and none of them twice. There is a list of deliveries,
each over one connection, that lists units which have been encoded in this order; what the receiver
of a connection gets is what is delivered over it. -/
theorem delivered_of_reachIf {s : TcpVideo} (h : tcpVideo.ReachIf OneHandler s) :
    ∃ delivered : List (ℕ × List Byte), (delivered.map Prod.snd).Sublist s.encoded ∧
      ∀ k, receive (s.stream k) = (delivered.filter (·.1 = k)).map Prod.snd := by
  obtain ⟨w, hw⟩ := h.invariant (I := fun s ↦ ∃ w, TcpVideo.Delivery s w)
    ⟨_, TcpVideo.delivery_idle⟩ fun s e s' ⟨w, hw⟩ hok hs ↦ hw.step hok hs
  refine ⟨w.delivered.map fun d ↦ (d.1, d.2.1), ?_, fun k ↦ ?_⟩
  · have hsub : (w.delivered.map Prod.snd).Sublist
        (w.delivered.map Prod.snd ++ w.inHand ++ w.waiting) := by
      rw [List.append_assoc]
      exact List.sublist_append_left _ _
    have horder := (hsub.map Subtype.val).trans hw.order
    rwa [List.map_map] at horder ⊢
  · have hstream : s.stream k =
        ((w.delivered.filter (·.1 = k)).map Prod.snd).flatMap videoPackets.encode ++ w.cut k := by
      rw [hw.stream k, List.flatMap_map]
      rfl
    rw [receive, hstream, videoPackets.decodeAll_flatMap_encode_append (hw.cut k), List.filter_map,
      List.map_map, List.map_map]
    rfl

/-- The socket thread `i` makes a connection, and the unit `[b]` is sent over it. -/
def sendOver (i : ℕ) (b : Byte) : List VideoEvent :=
  [.socketThread i false, .socketThread i false, .socketThread i false, .socketThread i false,
    .socketThread i false, .encoded [b], .handlerThread i .take, .handlerThread i .test,
    .handlerThread i .start, .handlerThread i (.write 3), .handlerThread i (.write 4)]

/-- All of `close`. -/
def closeCall : List VideoEvent := .close :: List.replicate 6 (.mainThread false)

/-- Two calls, one after the other. -/
theorem delivered_two_calls : ∃ s, tcpVideo.exec tcpVideo.init
      (.connect :: (sendOver 0 1#8 ++ closeCall) ++ .connect :: sendOver 1 2#8) = some s ∧
    ∃ delivered : List (ℕ × List Byte), (delivered.map Prod.snd).Sublist s.encoded ∧
      ∀ k, receive (s.stream k) = (delivered.filter (·.1 = k)).map Prod.snd := by
  have hother {events : List VideoEvent} (h : VideoEvent.connect ∉ events) (s : TcpVideo) :
      ∀ e ∈ events, OneHandler s e := fun e he heq ↦ absurd (heq ▸ he) h
  have hinit : tcpVideo.ReachIf OneHandler tcpVideo.init := .init
  have hfirst := (hinit.step (a := .connect) (fun _ ↦ by decide) rfl).exec
    (sendOver 0 1#8 ++ closeCall) (hother (by simp [sendOver, closeCall])) rfl
  have hsecond := (hfirst.step (a := .connect) (fun _ ↦ by decide) rfl).exec
    (sendOver 1 2#8) (hother (by simp [sendOver])) rfl
  exact ⟨_, rfl, delivered_of_reachIf hsecond⟩

/-- Where the old handler thread is still at work, the receiver may get what nobody has sent: here
the end of the first packet is written into the second one. -/
theorem mixed_of_two_handlers : ∃ s, tcpVideo.Reach s ∧
    ∃ k, ∃ payload ∈ receive (s.stream k), payload ∉ s.encoded := by
  have hrun : tcpVideo.exec tcpVideo.init (.connect :: (sendOver 0 1#8).take 8 ++
      .connect :: .socketThread 1 false :: .socketThread 1 false :: (sendOver 1 2#8).take 9 ++
      [.handlerThread 1 (.write 6), .handlerThread 0 .start, .handlerThread 0 (.write 7)]) =
        some _ := rfl
  exact ⟨_, TransitionSystem.Reach.exec .init hrun, 1, [0xff#8], by decide, by decide⟩

end DoorIntercom
