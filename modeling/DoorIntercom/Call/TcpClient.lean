import DoorIntercom.Call.MainActivity
import DoorIntercom.Lib.Transition

/-!
# The client connection

`TcpClient` between the main thread, one `SocketThread` for every `connect` and one send thread for
every command. They share the fields `mSocket`, `mOutputStream`, `mInputStream` and `isStop` without
a lock; the socket threads post messages to the main thread, which runs one handler after the other.

Every thread takes one statement of the source as one step, and the steps interleave freely; a call
of `isConnect` is one step. A handler of the main thread is the list of its statements that concern
the client (`Effect.statements`), and what is left of it is in `todo`. Sockets are numbered. A
stream is named by its socket: closing the stream closes the socket, and a write to a closed socket
throws, as `getOutputStream` does, while `isConnected` stays true. Closing does not throw. A `null`
that is followed ends the process.

A read is one step, which takes the stream from the field when it ends. What it gives is named by
the first command of its bytes, the only one that the listener looks at; the cuts between the reads
are the matter of `Call.Segmentation`.

`log` is a history of the calls, the ends of `btn_stop`'s handler and the commands written.
-/

namespace DoorIntercom

variable {α : Type}

/-- Where a `SocketThread` is: the statement that comes next. -/
inductive Pc
  /-- `if (mSocket != null)` -/
  | testOld
  /-- `mSocket.close()` -/
  | closeOld
  /-- `mSocket = null` -/
  | nullOld
  /-- `mSocket = new Socket(ipAddress, port)` -/
  | create
  /-- `if (isConnect())` -/
  | testConnect
  /-- `mOutputStream = mSocket.getOutputStream()` -/
  | getOutput
  /-- `mInputStream = mSocket.getInputStream()` -/
  | getInput
  /-- `isStop = false` -/
  | resetStop
  /-- `uiHandler.sendEmptyMessage(1)` -/
  | postSuccess
  /-- `uiHandler.sendEmptyMessage(-1)` -/
  | postFail
  /-- `while (isConnect() && !isStop && !isInterrupted())` -/
  | loop
  /-- `mInputStream.read(buffer)` -/
  | read
  /-- `run` has returned. -/
  | finished
  deriving DecidableEq, Repr

structure SocketThread where
  pc : Pc
  isInterrupted : Bool
  deriving DecidableEq, Repr

/-- The thread of a `sendByteCmd`, which has or has not yet tested that there is a stream. -/
structure SendThread where
  mBuffer : Command
  tested : Bool
  deriving DecidableEq, Repr

/-- How a call to the system ends, where it can end in more than one way. -/
inductive Outcome
  | returns
  | throws
  /-- The bytes that are read begin with the command. -/
  | reads (c : Command)
  deriving DecidableEq, Repr

/-- The statements of the main thread that concern the client. -/
inductive UiStatement
  /-- `connect(address, 9000)` -/
  | connect
  /-- `sendByteCmd(c, 1001)` -/
  | send (c : Command)
  /-- `isStop = true` -/
  | setStop
  /-- `if (mOutputStream != null) mOutputStream.close()` -/
  | closeOutput
  /-- `if (mInputStream != null) mInputStream.close()` -/
  | closeInput
  /-- `if (mSocket != null)` -/
  | testSocket
  /-- `mSocket.close()` -/
  | closeSocket
  /-- `mSocket = null` -/
  | nullSocket
  /-- `if (mSocketThread != null) mSocketThread.interrupt()` -/
  | interrupt
  /-- The handler of `btn_stop` ends. -/
  | endStop
  deriving DecidableEq, Repr

/-- `disconnect`. -/
def disconnect : List UiStatement := [.setStop, .closeOutput, .closeInput, .testSocket, .interrupt]

/-- What a handler does to the client. -/
def Effect.statements : Effect α → List UiStatement
  | .clientConnect _ => [.connect]
  | .clientSend c => [.send c]
  | .clientDisconnect => disconnect
  | _ => []

/-- What is recorded. -/
inductive LogEntry
  | call
  | stop
  | write (c : Command) (socket : ℕ)
  deriving DecidableEq, Repr

/-- The client, its threads and the activity. The newest entry of `log` is the first. -/
structure ClientState (α : Type) where
  activity : Activity α
  mSocket : Option ℕ
  mOutputStream : Option ℕ
  mInputStream : Option ℕ
  isStop : Bool
  mSocketThread : Option ℕ
  created : ℕ
  openSockets : List ℕ
  socketThreads : List SocketThread
  sendThreads : List SendThread
  messages : List Activity.Message
  todo : List UiStatement
  crashed : Bool
  log : List LogEntry

/-- The events of the main thread that start a handler: user actions, a message of the client, and
what the server's threads post. -/
inductive UiEvent (α : Type)
  | callVideo (dest : Option α)
  | stopClick
  | handleMessage
  | serverConnectFail
  | serverData (c : Command)
  | acceptClick (dialog : ℕ) (address : Option α)
  | refuseClick (dialog : ℕ)
  deriving DecidableEq, Repr

/-- What can happen next: a handler starts, or a thread takes its next statement. -/
inductive ClientEvent (α : Type)
  | ui (e : UiEvent α)
  | uiThread
  | socketThread (i : ℕ) (o : Outcome)
  | sendThread (i : ℕ) (o : Outcome)
  deriving DecidableEq, Repr

namespace ClientState

/-- The client of an activity that has just been created. -/
def idle : ClientState α where
  activity := .idle
  mSocket := none
  mOutputStream := none
  mInputStream := none
  isStop := false
  mSocketThread := none
  created := 0
  openSockets := []
  socketThreads := []
  sendThreads := []
  messages := []
  todo := []
  crashed := false
  log := []

/-- `isConnect`: a socket that was connected stays so when it is closed. -/
def isConnect (s : ClientState α) : Bool := s.mSocket.isSome

/-- A socket is closed, by itself or by one of its streams. -/
def close (s : ClientState α) (socket : ℕ) : ClientState α :=
  { s with openSockets := s.openSockets.filter fun k ↦ k ≠ socket }

/-- A `null` is followed. -/
def crash (s : ClientState α) : ClientState α := { s with crashed := true }

/-- A message is posted to the main thread. -/
def post (s : ClientState α) (m : Activity.Message) : ClientState α :=
  { s with messages := s.messages ++ [m] }

/-- `mSocket = new Socket(ipAddress, port)`, if it connects. -/
def createSocket (s : ClientState α) : ClientState α :=
  { s with
    mSocket := some s.created
    created := s.created + 1
    openSockets := s.created :: s.openSockets }

/-! ### The socket threads -/

/-- A socket thread goes on to a statement. -/
def goto (s : ClientState α) (i : ℕ) (t : SocketThread) (pc : Pc) : ClientState α :=
  { s with socketThreads := s.socketThreads.set i { t with pc } }

/-- The next statement of a socket thread. -/
def runSocketThread (s : ClientState α) (i : ℕ) (t : SocketThread) (o : Outcome) :
    ClientState α :=
  match t.pc with
  | .testOld => s.goto i t (if s.mSocket.isSome then .closeOld else .create)
  | .closeOld =>
    match s.mSocket with
    | some socket => (s.close socket).goto i t .nullOld
    | none => s.crash
  | .nullOld => { s with mSocket := none }.goto i t .create
  | .create => if o = .throws then s.goto i t .postFail else s.createSocket.goto i t .testConnect
  | .testConnect => s.goto i t (if s.isConnect then .getOutput else .postFail)
  | .getOutput =>
    match s.mSocket with
    | some socket =>
      if socket ∈ s.openSockets then { s with mOutputStream := some socket }.goto i t .getInput
      else s.goto i t .postFail
    | none => s.crash
  | .getInput =>
    match s.mSocket with
    | some socket =>
      if socket ∈ s.openSockets then { s with mInputStream := some socket }.goto i t .resetStop
      else s.goto i t .postFail
    | none => s.crash
  | .resetStop => { s with isStop := false }.goto i t .postSuccess
  | .postSuccess => (s.post .clientConnectSuccess).goto i t .loop
  | .postFail => (s.post .clientConnectFail).goto i t .finished
  | .loop =>
    s.goto i t (if s.isConnect && !s.isStop && !t.isInterrupted then .read else .finished)
  | .read =>
    match s.mInputStream with
    | some socket =>
      if socket ∈ s.openSockets then
        match o with
        | .returns => s.goto i t .loop
        | .reads c => (s.post (.clientData c)).goto i t .loop
        | .throws => s.goto i t .postFail
      else s.goto i t .postFail
    | none => s.goto i t .finished
  | .finished => s

/-! ### The send threads -/

/-- The next statement of a send thread: it tests the field, and then writes to what is in it. -/
def runSendThread (s : ClientState α) (i : ℕ) (t : SendThread) (o : Outcome) : ClientState α :=
  if t.tested then
    match s.mOutputStream with
    | some socket =>
      { s with
        sendThreads := s.sendThreads.eraseIdx i
        log := if socket ∈ s.openSockets ∧ o ≠ .throws then .write t.mBuffer socket :: s.log
          else s.log }
    | none => s.crash
  else if s.mOutputStream.isSome then
    { s with sendThreads := s.sendThreads.set i { t with tested := true } }
  else { s with sendThreads := s.sendThreads.eraseIdx i }

/-! ### The main thread -/

/-- A statement of the main thread. -/
def runUi (s : ClientState α) : UiStatement → ClientState α
  | .connect =>
    { s with
      socketThreads := s.socketThreads ++ [⟨.testOld, false⟩]
      mSocketThread := some s.socketThreads.length
      log := .call :: s.log }
  | .send c => { s with sendThreads := s.sendThreads ++ [⟨c, false⟩] }
  | .setStop => { s with isStop := true }
  | .closeOutput => s.mOutputStream.elim s s.close
  | .closeInput => s.mInputStream.elim s s.close
  | .testSocket =>
    if s.mSocket.isSome then { s with todo := .closeSocket :: .nullSocket :: s.todo } else s
  | .closeSocket =>
    match s.mSocket with
    | some socket => s.close socket
    | none => s.crash
  | .nullSocket => { s with mSocket := none }
  | .interrupt =>
    match s.mSocketThread with
    | some i =>
      { s with
        socketThreads := s.socketThreads.modify i fun t ↦ { t with isInterrupted := true } }
    | none => s
  | .endStop => { s with log := .stop :: s.log }

/-- A handler starts: the activity changes, and the handler's statements are to be done. -/
def handle (s : ClientState α) (r : Activity α × List (Effect α)) (last : List UiStatement) :
    ClientState α :=
  { s with activity := r.1, todo := r.2.flatMap Effect.statements ++ last }

/-- The start of a handler. -/
def startHandler (s : ClientState α) : UiEvent α → Option (ClientState α)
  | .callVideo dest => some (s.handle (s.activity.callVideo dest) [])
  | .stopClick => some (s.handle (s.activity.stopClick s.isConnect) [.endStop])
  | .handleMessage =>
    match s.messages with
    | m :: messages => some ({ s with messages }.handle (s.activity.handleMessage m) [])
    | [] => none
  | .serverConnectFail => some (s.handle (s.activity.handleMessage .serverConnectFail) [])
  | .serverData c => some (s.handle (s.activity.handleMessage (.serverData c)) [])
  | .acceptClick dialog address =>
    if dialog ∈ s.activity.dialogs then
      some (s.handle (s.activity.acceptClick dialog address) [])
    else none
  | .refuseClick dialog =>
    if dialog ∈ s.activity.dialogs then some (s.handle (s.activity.refuseClick dialog) [])
    else none

/-- The step of an event. Handlers start when the one before has ended. -/
def step (s : ClientState α) (e : ClientEvent α) : Option (ClientState α) :=
  if s.crashed then none
  else
    match e with
    | .ui e => if s.todo = [] then s.startHandler e else none
    | .uiThread =>
      match s.todo with
      | st :: todo => some ({ s with todo }.runUi st)
      | [] => none
    | .socketThread i o =>
      match s.socketThreads[i]? with
      | some t => if t.pc = .finished then none else some (s.runSocketThread i t o)
      | none => none
    | .sendThread i o => (s.sendThreads[i]?).map fun t ↦ s.runSendThread i t o

end ClientState

/-- The client with its threads. -/
def client (α : Type) : TransitionSystem (ClientState α) (ClientEvent α) where
  init := .idle
  step := ClientState.step

end DoorIntercom
