import DoorIntercom.Call.Answer

/-!
# The server connection

`TcpServer` statement by statement, as `Call.TcpClient` has the client. The accept loop, one
`ServerReceiveThread` for every connection, the send thread and the main thread share the fields
`clientScoket`, `mInputStream`, `mOutputStream` and `isConnect` without a lock. `isConnect()` tests
`clientScoket` and then follows it, and so does the accept loop after its own assignment, while
`disconnect` may set it to `null` in between. A `null` that is followed ends the process, except in
the send thread, which catches everything.

Sockets are named by their connections, and streams by their sockets: closing the stream closes the
socket, and a read, a write or a `getOutputStream` of a closed socket throws, while `isConnected`
stays true. Closing does not throw, and `accept` gives a connection or goes on waiting. The
`interrupt` of `disconnect` does nothing to a thread that does not look at it, and is left out.

A read takes one or more of the commands that have arrived: the server posts all that it has read as
one message, and the listener looks at the first command of a message only. A read that ends inside
a command is the matter of `Call.Segmentation`.

A handler of the main thread is the list of its statements that concern the server, and what is left
of it is in `todo`; the handler of a dialog's button runs while the dialog is on the screen, and
takes the server's address when it starts. A dialog is also closed by the back key, or by a touch
beside it. What the client's listeners do to the activity is left out: no statement about the server
depends on it.
-/

namespace DoorIntercom

variable {α : Type}

/-- Where the accept loop is: the statement that comes next. -/
inductive AcceptPc
  /-- `clientScoket = mServerSocket.accept()` -/
  | accept
  /-- `address = String.valueOf(clientScoket.getInetAddress().getHostAddress())` -/
  | setAddress
  /-- `mInputStream = clientScoket.getInputStream()` -/
  | setStream
  /-- `isConnect = true` -/
  | setConnect
  /-- `serverReceiveThread = new ServerReceiveThread()`, and its `start()` -/
  | startThread
  deriving DecidableEq, Repr

/-- Where a `ServerReceiveThread` is. -/
inductive ReceivePc
  /-- `while (isConnect && ...)` -/
  | loop
  /-- `if (clientScoket != null)`, in `isConnect()` -/
  | testSocket
  /-- `clientScoket.isConnected()` -/
  | isConnected
  /-- `if (mInputStream == null)` -/
  | testStream
  /-- `mInputStream.read(buf)`: the field is read -/
  | beginRead
  /-- The thread waits in a `read` of this stream. -/
  | reading (socket : ℕ)
  /-- `mHandler.sendMessage(msg)`, of a command and what was read behind it -/
  | post (socket : ℕ) (c : Command) (rest : List Command)
  /-- `mHandler.sendEmptyMessage(-1)` -/
  | postFail
  /-- `run` has returned. -/
  | finished
  deriving DecidableEq, Repr

/-- How a `read` of an open stream ends: with a command and `n` more behind it, at the end of the
stream, or not well. -/
inductive ReadOutcome
  | data (n : ℕ)
  | ends
  | throws
  deriving DecidableEq, Repr

/-- The statements of the main thread that concern the server. -/
inductive ServerStatement
  /-- `sendMsg(c)`, from a dialog or from `btn_stop` -/
  | send (dialog : Option ℕ) (c : Command)
  /-- `isConnect = false` -/
  | clearConnect
  /-- `if (mOutputStream != null) mOutputStream.close()` -/
  | closeOutput
  /-- `if (mInputStream != null) mInputStream.close()` -/
  | closeInput
  /-- `if (clientScoket != null)` -/
  | testSocket
  /-- `clientScoket.close()` -/
  | closeSocket
  /-- `clientScoket = null` -/
  | nullSocket
  deriving DecidableEq, Repr

/-- `TcpServer.disconnect`. -/
def TcpServer.disconnect : List ServerStatement :=
  [.clearConnect, .closeOutput, .closeInput, .testSocket]

/-- What a handler does to the server. -/
def Effect.serverStatements (dialog : Option ℕ) : Effect α → List ServerStatement
  | .serverSend c => [.send dialog c]
  | .serverDisconnect => TcpServer.disconnect
  | _ => []

/-- A message to the server's handler: `-1`, or `100` with the first command that was read. -/
inductive ServerMessage
  | fail
  | data (socket : ℕ) (c : Command)
  deriving DecidableEq, Repr

/-- The server, its threads and the activity. The send thread is between its two statements while
`writing` is set. `asked`, `answers` and `videos` are the history of `ServerState`. There are also
the commands that were read behind another one (`passedOver`), the dialogs that were closed without
an answer (`dismissed`), and those whose answer was not written (`lost`). -/
structure TcpServerState (α : Type) where
  connections : List ℕ
  backlog : List ℕ
  inFlight : ℕ → List Command
  openSockets : List ℕ
  acceptPc : AcceptPc
  clientScoket : Option ℕ
  address : Option α
  mInputStream : Option ℕ
  mOutputStream : Option ℕ
  isConnect : Bool
  receiveThreads : List ReceivePc
  messages : List ServerMessage
  activity : Activity α
  todo : List ServerStatement
  toSend : List (Option ℕ × Command)
  writing : Option (Option ℕ × Command)
  crashed : Bool
  asked : List ℕ
  answers : List (Option ℕ × Command × ℕ)
  videos : List (ℕ × Option α)
  passedOver : List (ℕ × Command)
  dismissed : List ℕ
  lost : List (Option ℕ)

/-- What can happen next. -/
inductive TcpServerEvent
  | connect (c : ℕ)
  | clientSend (c : ℕ) (command : Command)
  | accept
  | acceptThread
  | receiveThread (i : ℕ) (o : ReadOutcome)
  | sendThread (throws : Bool)
  | handleMessage
  | acceptClick (dialog : ℕ)
  | refuseClick (dialog : ℕ)
  /-- The dialog is closed by the back key, or by a touch beside it. -/
  | cancel (dialog : ℕ)
  | stopClick (clientConnected : Bool)
  | uiThread
  deriving DecidableEq, Repr

namespace TcpServerState

/-- A server that has just been started. -/
def started : TcpServerState α where
  connections := []
  backlog := []
  inFlight _ := []
  openSockets := []
  acceptPc := .accept
  clientScoket := none
  address := none
  mInputStream := none
  mOutputStream := none
  isConnect := false
  receiveThreads := []
  messages := []
  activity := .idle
  todo := []
  toSend := []
  writing := none
  crashed := false
  asked := []
  answers := []
  videos := []
  passedOver := []
  dismissed := []
  lost := []

/-- A socket is closed, by itself or by one of its streams. -/
def close (s : TcpServerState α) (socket : ℕ) : TcpServerState α :=
  { s with openSockets := s.openSockets.filter fun k ↦ k ≠ socket }

/-- A `null` is followed. -/
def crash (s : TcpServerState α) : TcpServerState α := { s with crashed := true }

/-- A message is posted to the main thread. -/
def postMessage (s : TcpServerState α) (m : ServerMessage) : TcpServerState α :=
  { s with messages := s.messages ++ [m] }

/-- What has been read is posted. Nobody looks at the commands behind the first one. -/
def postData (s : TcpServerState α) (socket : ℕ) (c : Command) (rest : List Command) :
    TcpServerState α :=
  { s.postMessage (.data socket c) with
    passedOver := s.passedOver ++ rest.map fun command ↦ (socket, command) }

/-- What was to be written is not. -/
def lose (s : TcpServerState α) (dialog : Option ℕ) : TcpServerState α :=
  { s with lost := s.lost ++ [dialog] }

/-! ### The threads -/

/-- The next statement of the accept loop, after `accept`. -/
def runAcceptThread (addr : ℕ → α) (s : TcpServerState α) : Option (TcpServerState α) :=
  match s.acceptPc with
  | .accept => none
  | .setAddress =>
    match s.clientScoket with
    | some c => some { s with acceptPc := .setStream, address := some (addr c) }
    | none => some s.crash
  | .setStream =>
    match s.clientScoket with
    | some c =>
      if c ∈ s.openSockets then some { s with acceptPc := .setConnect, mInputStream := some c }
      else some { s with acceptPc := .accept }
    | none => some s.crash
  | .setConnect => some { s with acceptPc := .startThread, isConnect := true }
  | .startThread =>
    some { s with acceptPc := .accept, receiveThreads := s.receiveThreads ++ [.loop] }

/-- A receive thread goes on to a statement. -/
def goto (s : TcpServerState α) (i : ℕ) (pc : ReceivePc) : TcpServerState α :=
  { s with receiveThreads := s.receiveThreads.set i pc }

/-- The next statement of a receive thread. Without data a `read` waits. -/
def runReceiveThread (s : TcpServerState α) (i : ℕ) (o : ReadOutcome) :
    ReceivePc → Option (TcpServerState α)
  | .loop => some (s.goto i (if s.isConnect then .testSocket else .finished))
  | .testSocket => some (s.goto i (if s.clientScoket.isSome then .isConnected else .finished))
  | .isConnected => some (if s.clientScoket.isSome then s.goto i .testStream else s.crash)
  | .testStream => some (s.goto i (if s.mInputStream.isSome then .beginRead else .finished))
  | .beginRead =>
    match s.mInputStream with
    | some socket => some (s.goto i (.reading socket))
    | none => some s.crash
  | .reading socket =>
    if socket ∈ s.openSockets then
      match o with
      | .data n =>
        match s.inFlight socket with
        | c :: rest =>
          some ({ s with inFlight := Function.update s.inFlight socket (rest.drop n) }.goto i
            (.post socket c (rest.take n)))
        | [] => none
      | .ends => some (s.goto i .loop)
      | .throws => some (s.goto i .postFail)
    else some (s.goto i .postFail)
  | .post socket c rest => some ((s.postData socket c rest).goto i .loop)
  | .postFail => some ((s.postMessage .fail).goto i .finished)
  | .finished => none

/-- The next statement of the send thread: it takes the stream of the socket, and then writes to the
stream. What throws is caught, and the command is lost. -/
def runSendThread (s : TcpServerState α) (throws : Bool) : Option (TcpServerState α) :=
  match s.writing with
  | none =>
    match s.toSend with
    | m :: toSend =>
      match s.clientScoket with
      | some c =>
        if c ∈ s.openSockets then some { s with toSend, mOutputStream := some c, writing := some m }
        else some ({ s with toSend }.lose m.1)
      | none => some ({ s with toSend }.lose m.1)
    | [] => none
  | some (dialog, command) =>
    match s.mOutputStream with
    | some c =>
      if c ∈ s.openSockets ∧ throws = false then
        some { s with writing := none, answers := s.answers ++ [(dialog, command, c)] }
      else some ({ s with writing := none }.lose dialog)
    | none => some ({ s with writing := none }.lose dialog)

/-! ### The main thread -/

/-- A statement of the main thread. -/
def runUi (s : TcpServerState α) : ServerStatement → TcpServerState α
  | .send dialog c => { s with toSend := s.toSend ++ [(dialog, c)] }
  | .clearConnect => { s with isConnect := false }
  | .closeOutput => s.mOutputStream.elim s s.close
  | .closeInput => s.mInputStream.elim s s.close
  | .testSocket =>
    if s.clientScoket.isSome then { s with todo := .closeSocket :: .nullSocket :: s.todo } else s
  | .closeSocket =>
    match s.clientScoket with
    | some socket => s.close socket
    | none => s.crash
  | .nullSocket => { s with clientScoket := none }

/-- A handler starts: the activity changes, and the handler's statements are to be done. -/
def handle (s : TcpServerState α) (dialog : Option ℕ) (r : Activity α × List (Effect α)) :
    TcpServerState α :=
  { s with activity := r.1, todo := r.2.flatMap (Effect.serverStatements dialog) }

/-- The messages that the main thread is about to give to the send thread. -/
def pendingSends (s : TcpServerState α) : List (Option ℕ × Command) :=
  s.todo.filterMap fun st ↦
    match st with
    | .send dialog c => some (dialog, c)
    | _ => none

/-- A message is handled. The dialogs that a client's hang-up closes have no answer. -/
def handleMessage (s : TcpServerState α) : ServerMessage → TcpServerState α
  | .fail => s.handle none (s.activity.handleMessage .serverConnectFail)
  | .data c command =>
    let r := s.activity.handleMessage (.serverData command)
    { s.handle none r with
      asked := if command = .requestVideo then s.asked ++ [c] else s.asked
      dismissed := s.dismissed ++ s.activity.dialogs.diff r.1.dialogs }

/-- What an event does; `addr` is the address of a connection's client. Handlers start when the one
before has ended. -/
def next (addr : ℕ → α) (s : TcpServerState α) : TcpServerEvent → Option (TcpServerState α)
  | .connect c =>
    if c ∈ s.connections then none
    else some { s with connections := c :: s.connections, backlog := s.backlog ++ [c] }
  | .clientSend c command =>
    if c ∈ s.connections then
      some { s with inFlight := Function.update s.inFlight c (s.inFlight c ++ [command]) }
    else none
  | .accept =>
    match s.acceptPc, s.backlog with
    | .accept, c :: backlog =>
      some { s with
        backlog
        acceptPc := .setAddress
        clientScoket := some c
        openSockets := c :: s.openSockets }
    | _, _ => none
  | .acceptThread => s.runAcceptThread addr
  | .receiveThread i o => (s.receiveThreads[i]?).bind fun pc ↦ s.runReceiveThread i o pc
  | .sendThread throws => s.runSendThread throws
  | .handleMessage =>
    match s.todo, s.messages with
    | [], m :: messages => some ({ s with messages }.handleMessage m)
    | _, _ => none
  | .acceptClick dialog =>
    if s.todo = [] ∧ dialog ∈ s.activity.dialogs then
      let r := s.activity.acceptClick dialog s.address
      some { s.handle (some dialog) r with
        videos := s.videos ++ [(dialog, ServerState.opened r.2)] }
    else none
  | .refuseClick dialog =>
    if s.todo = [] ∧ dialog ∈ s.activity.dialogs then
      some (s.handle (some dialog) (s.activity.refuseClick dialog))
    else none
  | .cancel dialog =>
    if s.todo = [] ∧ dialog ∈ s.activity.dialogs then
      some { s with
        activity := s.activity.dismiss dialog
        dismissed := s.dismissed ++ [dialog] }
    else none
  | .stopClick clientConnected =>
    if s.todo = [] then some (s.handle none (s.activity.stopClick clientConnected)) else none
  | .uiThread =>
    match s.todo with
    | st :: todo => some ({ s with todo }.runUi st)
    | [] => none

/-- The step of an event. Nothing happens any more after a crash. -/
def step (addr : ℕ → α) (s : TcpServerState α) (e : TcpServerEvent) : Option (TcpServerState α) :=
  if s.crashed then none else s.next addr e

theorem step_eq_some {addr : ℕ → α} {s s' : TcpServerState α} {e : TcpServerEvent} :
    s.step addr e = some s' ↔ s.crashed = false ∧ s.next addr e = some s' := by
  cases hcrashed : s.crashed <;> simp [step, hcrashed]

/-! ### What a statement does -/

section Statements

variable {addr : ℕ → α} {s s' : TcpServerState α}

/-- **A statement of the accept loop** follows `null`, or the loop goes on. -/
theorem runAcceptThread_cases (h : s.runAcceptThread addr = some s') :
    (s' = s.crash ∧ (s.acceptPc = .setAddress ∨ s.acceptPc = .setStream) ∧
      s.clientScoket = none) ∨
    (∃ c, s.acceptPc = .setAddress ∧ s.clientScoket = some c ∧
      s' = { s with acceptPc := .setStream, address := some (addr c) }) ∨
    (∃ c, s.acceptPc = .setStream ∧ s.clientScoket = some c ∧ c ∈ s.openSockets ∧
      s' = { s with acceptPc := .setConnect, mInputStream := some c }) ∨
    (∃ c, s.acceptPc = .setStream ∧ s.clientScoket = some c ∧ c ∉ s.openSockets ∧
      s' = { s with acceptPc := .accept }) ∨
    (s.acceptPc = .setConnect ∧ s' = { s with acceptPc := .startThread, isConnect := true }) ∨
    (s.acceptPc = .startThread ∧
      s' = { s with acceptPc := .accept, receiveThreads := s.receiveThreads ++ [.loop] }) := by
  rw [runAcceptThread] at h
  split at h
  next => cases h
  next hpc =>
    split at h
    next c hc => exact Or.inr (Or.inl ⟨c, hpc, hc, (Option.some.inj h).symm⟩)
    next hnull => exact Or.inl ⟨(Option.some.inj h).symm, Or.inl hpc, hnull⟩
  next hpc =>
    split at h
    next c hc =>
      split_ifs at h with hopen
      · exact Or.inr (Or.inr (Or.inl ⟨c, hpc, hc, hopen, (Option.some.inj h).symm⟩))
      · exact Or.inr (Or.inr (Or.inr (Or.inl ⟨c, hpc, hc, hopen, (Option.some.inj h).symm⟩)))
    next hnull => exact Or.inl ⟨(Option.some.inj h).symm, Or.inr hpc, hnull⟩
  next hpc =>
    exact Or.inr (Or.inr (Or.inr (Or.inr (Or.inl ⟨hpc, (Option.some.inj h).symm⟩))))
  next hpc =>
    exact Or.inr (Or.inr (Or.inr (Or.inr (Or.inr ⟨hpc, (Option.some.inj h).symm⟩))))

/-- **A statement of the send thread** takes the stream of the socket for a message, or loses it; or
it writes, or loses what it would write. -/
theorem runSendThread_cases {throws : Bool} (h : s.runSendThread throws = some s') :
    (∃ m toSend, s.writing = none ∧ s.toSend = m :: toSend ∧
      ((∃ c, s.clientScoket = some c ∧
        s' = { s with toSend, mOutputStream := some c, writing := some m }) ∨
      s' = { s with toSend }.lose m.1)) ∨
    ∃ m, s.writing = some m ∧
      ((∃ c, s.mOutputStream = some c ∧
        s' = { s with writing := none, answers := s.answers ++ [(m.1, m.2, c)] }) ∨
      s' = { s with writing := none }.lose m.1) := by
  rw [runSendThread] at h
  split at h
  next hwriting =>
    split at h
    next m toSend hm =>
      refine Or.inl ⟨m, toSend, hwriting, hm, ?_⟩
      split at h
      next c hc =>
        split_ifs at h
        · exact Or.inl ⟨c, hc, (Option.some.inj h).symm⟩
        · exact Or.inr (Option.some.inj h).symm
      next => exact Or.inr (Option.some.inj h).symm
    next => cases h
  next dialog command hwriting =>
    refine Or.inr ⟨_, hwriting, ?_⟩
    split at h
    next c hc =>
      split_ifs at h
      · exact Or.inl ⟨c, hc, (Option.some.inj h).symm⟩
      · exact Or.inr (Option.some.inj h).symm
    next => exact Or.inr (Option.some.inj h).symm

theorem closeStream_eq (s : TcpServerState α) (stream : Option ℕ) :
    ∃ openSockets, stream.elim s s.close = { s with openSockets } := by
  cases stream with
  | none => exact ⟨s.openSockets, rfl⟩
  | some socket => exact ⟨_, rfl⟩

/-- **A statement of the main thread** gives a message to the send thread, or changes the fields of
the server. It does not set `isConnect`. -/
theorem runUi_cases (s : TcpServerState α) (st : ServerStatement) :
    (∃ dialog c, st = .send dialog c ∧
      s.runUi st = { s with toSend := s.toSend ++ [(dialog, c)] }) ∨
    ∃ isConnect openSockets clientScoket crashed todo, (∀ dialog c, st ≠ .send dialog c) ∧
      s.runUi st = { s with isConnect, openSockets, clientScoket, crashed, todo } ∧
      (s.isConnect = false → isConnect = false) ∧ (s.runUi st).pendingSends = s.pendingSends := by
  cases st with
  | send dialog c => exact Or.inl ⟨dialog, c, rfl, rfl⟩
  | clearConnect => exact Or.inr ⟨_, _, _, _, _, by simp, rfl, fun _ ↦ rfl, rfl⟩
  | nullSocket => exact Or.inr ⟨_, _, _, _, _, by simp, rfl, id, rfl⟩
  | closeOutput =>
    obtain ⟨openSockets, heq⟩ := s.closeStream_eq s.mOutputStream
    rw [runUi, heq]
    exact Or.inr ⟨_, _, _, _, _, by simp, rfl, id, rfl⟩
  | closeInput =>
    obtain ⟨openSockets, heq⟩ := s.closeStream_eq s.mInputStream
    rw [runUi, heq]
    exact Or.inr ⟨_, _, _, _, _, by simp, rfl, id, rfl⟩
  | testSocket =>
    rw [runUi]
    split_ifs <;> exact Or.inr ⟨_, _, _, _, _, by simp, rfl, id, rfl⟩
  | closeSocket =>
    rw [runUi]
    split <;> exact Or.inr ⟨_, _, _, _, _, by simp, rfl, id, rfl⟩

/-- Where a thread goes on, the others stay. -/
theorem exists_set {i : ℕ} {pc : ReceivePc} (hget : s.receiveThreads[i]? = some pc)
    (pc' : ReceivePc) :
    ∃ before after, s.receiveThreads = before ++ pc :: after ∧
      s.receiveThreads.set i pc' = before ++ pc' :: after := by
  obtain ⟨hi, rfl⟩ := List.getElem?_eq_some_iff.1 hget
  have hsplit : ∃ before after, s.receiveThreads = before ++ s.receiveThreads[i] :: after ∧
      before.length = i ∧ s.receiveThreads.set i pc' = before ++ pc' :: after :=
    List.exists_of_set hi
  obtain ⟨before, after, heq, -, hset⟩ := hsplit
  exact ⟨before, after, heq, hset⟩

/-- A handler starts when the one before has ended. -/
theorem pendingSends_of_todo (htodo : s.todo = []) : s.pendingSends = [] := by
  rw [pendingSends, htodo]
  rfl

/-- What the buttons of a dialog give to the send thread. -/
theorem serverStatements_acceptClick (a : Activity α) (dialog : ℕ) (address : Option α) :
    (a.acceptClick dialog address).2.flatMap (Effect.serverStatements (some dialog)) =
        [.send (some dialog) .acceptVideo] ∧
      ServerState.sends (a.acceptClick dialog address).2 = [.acceptVideo] := by
  rw [Activity.acceptClick]
  split_ifs <;> exact ⟨rfl, rfl⟩

end Statements

end TcpServerState

/-- The server with its threads, for clients with the given addresses. -/
def tcpServer (addr : ℕ → α) : TransitionSystem (TcpServerState α) TcpServerEvent where
  init := .started
  step := TcpServerState.step addr

end DoorIntercom
