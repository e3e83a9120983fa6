import DoorIntercom.Call.Commands

/-!
# The call handlers of `MainActivity`

Each handler changes the activity's fields and asks for effects on `TcpClient`, `TcpServer` and the
video view, in order. Addresses are of a type `α`. A call sets `isStart` where the **caller** is
told that the call is accepted, and `destCall` where the **callee** accepts it; recording starts in
both places. The handlers that end a call look at one of the two flags:

* the stop button asks `destCall` whether to tell the caller, and stops the recording in any case;
* a hang-up on the client connection stops it in any case;
* a hang-up on the server connection, and both `onConnectFail`, stop it only if `isStart` is set.

Widgets are left out: no handler reads their state, but for the address text, which is not empty.
The branch of the server's `onDataReceive` for `0x07 0x03` is not here: no command takes it
(`acted_bytes`).
-/

namespace DoorIntercom

variable {α : Type}

/-- What the handlers ask for. -/
inductive Effect (α : Type)
  | clientConnect (address : Option α)
  | clientSend (c : Command)
  | clientDisconnect
  | serverSend (c : Command)
  | serverDisconnect
  | initSocket (address : Option α)
  | startRecod
  | stopRecord
  deriving DecidableEq, Repr

/-- The fields of the activity. Dialogs are told apart by the order in which they were built:
`dialogs` are those on the screen, and `alertDialog2` is the last one built. -/
structure Activity (α : Type) where
  isStart : Bool
  destCall : Bool
  address : Option α
  built : ℕ
  dialogs : List ℕ
  alertDialog2 : Option ℕ
  deriving DecidableEq, Repr

namespace Activity

/-- An activity that has just been created. -/
def idle : Activity α := ⟨false, false, none, 0, [], none⟩

/-- `setDialog`. -/
def setDialog (a : Activity α) : Activity α :=
  { a with
    built := a.built + 1
    dialogs := a.dialogs ++ [a.built]
    alertDialog2 := some a.built }

/-- `dismiss` of a dialog. -/
def dismiss (dialog : ℕ) (a : Activity α) : Activity α :=
  { a with dialogs := a.dialogs.erase dialog }

/-! ### User actions -/

/-- A call to a room: `btn_start`, after the enter key may have found another address. -/
def callVideo (dest : Option α) (a : Activity α) : Activity α × List (Effect α) :=
  let a := { a with address := dest.or a.address }
  (a, [.clientConnect a.address])

/-- `onClick` of `btn_stop`, `isConnect` being the client's. -/
def stopClick (isConnect : Bool) (a : Activity α) : Activity α × List (Effect α) :=
  (a, (if isConnect then [.clientSend .handUpVideo, .clientDisconnect] else []) ++
    (if a.destCall then [.serverSend .handUpVideo, .serverDisconnect] else []) ++ [.stopRecord])

/-- The positive button of a dialog, `address` being the server's. -/
def acceptClick (dialog : ℕ) (address : Option α) (a : Activity α) :
    Activity α × List (Effect α) :=
  if address.isSome then
    ({ a with destCall := true }.dismiss dialog,
      [.serverSend .acceptVideo, .initSocket address, .startRecod])
  else (a.dismiss dialog, [.serverSend .acceptVideo])

/-- The negative button of a dialog. -/
def refuseClick (dialog : ℕ) (a : Activity α) : Activity α × List (Effect α) :=
  (a.dismiss dialog, [.serverSend .refuseVideo])

/-! ### The listener of the client -/

/-- `onConnectSuccess`. -/
def clientConnectSuccess (a : Activity α) : Activity α × List (Effect α) :=
  (a, [.clientSend .requestVideo])

/-- `onConnectFail`. -/
def clientConnectFail (a : Activity α) : Activity α × List (Effect α) :=
  if a.isStart then ({ a with isStart := false }, [.stopRecord]) else (a, [])

/-- `onDataReceive`, for a command that it acts on. -/
def clientReceive (c : Command) (a : Activity α) : Activity α × List (Effect α) :=
  match c with
  | .acceptVideo => ({ a with isStart := true }, [.initSocket a.address, .startRecod])
  | .handUpVideo => (a, [.clientDisconnect, .stopRecord])
  | .refuseVideo => (a, [.clientDisconnect])
  | _ => (a, [])

/-! ### The listener of the server -/

/-- `onConnectFail`. -/
def serverConnectFail (a : Activity α) : Activity α × List (Effect α) :=
  if a.isStart then ({ a with isStart := false }, [.serverDisconnect, .stopRecord])
  else (a, [.serverDisconnect])

/-- `onDataReceive`, for a command that it acts on. -/
def serverReceive (c : Command) (a : Activity α) : Activity α × List (Effect α) :=
  match c with
  | .requestVideo => (a.setDialog, [])
  | .handUpVideo =>
    let dismissed : Activity α := a.alertDialog2.elim a fun dialog ↦ a.dismiss dialog
    if a.isStart then ({ dismissed with isStart := false }, [.stopRecord]) else (dismissed, [])
  | _ => (a, [])

/-! ### Messages of the handlers -/

/-- A message that a receive or connect thread posts to the main thread. -/
inductive Message
  | clientConnectSuccess
  | clientConnectFail
  | clientData (c : Command)
  | serverConnectFail
  | serverData (c : Command)
  deriving DecidableEq, Repr

/-- `handleMessage` of the two handlers, which disconnect after `onConnectFail`. -/
def handleMessage (m : Message) (a : Activity α) : Activity α × List (Effect α) :=
  match m with
  | .clientConnectSuccess => a.clientConnectSuccess
  | .clientConnectFail =>
    ((a.clientConnectFail).1, (a.clientConnectFail).2 ++ [.clientDisconnect])
  | .clientData c => a.clientReceive c
  | .serverConnectFail =>
    ((a.serverConnectFail).1, (a.serverConnectFail).2 ++ [.serverDisconnect])
  | .serverData c => a.serverReceive c

/-! ### The recording

The video view is recording after `startRecod` and until `stopRecord`. -/

/-- Whether the view is recording after the effects. -/
def recordingAfter (recording : Bool) (effects : List (Effect α)) : Bool :=
  effects.foldl (fun recording effect ↦
    match effect with
    | .startRecod => true
    | .stopRecord => false
    | _ => recording) recording

/-- The messages that stop the recording if `isStart` is set: a hang-up on the server connection,
and the callbacks of a failed connection. -/
def Message.stopsIfStart : Message → Bool
  | .serverData .handUpVideo => true
  | .clientConnectFail => true
  | .serverConnectFail => true
  | _ => false

/-- The messages that end a call: these, and a hang-up on the client connection. -/
def Message.endsCall (m : Message) : Bool := m.stopsIfStart || m = .clientData .handUpVideo

section Recording

variable (a : Activity α) (recording : Bool)

/-- **What a message does to `isStart`.** -/
theorem isStart_handleMessage (m : Message) :
    (a.handleMessage m).1.isStart =
      if m = .clientData .acceptVideo then true
      else if m.stopsIfStart then false
      else a.isStart := by
  cases m with
  | clientConnectSuccess => rfl
  | clientConnectFail =>
    by_cases hs : a.isStart <;>
      simp [handleMessage, clientConnectFail, Message.stopsIfStart, hs]
  | clientData c => cases c <;> rfl
  | serverConnectFail =>
    by_cases hs : a.isStart <;>
      simp [handleMessage, serverConnectFail, Message.stopsIfStart, hs]
  | serverData c =>
    cases c with
    | handUpVideo =>
      rcases hd : a.alertDialog2 with _ | dialog <;> by_cases hs : a.isStart <;>
        simp [handleMessage, serverReceive, Message.stopsIfStart, dismiss, hs, hd]
    | requestVideo => rfl
    | acceptVideo => rfl
    | refuseVideo => rfl
    | ending => rfl

/-- **What a message does to the recording.** -/
theorem recordingAfter_handleMessage (m : Message) :
    recordingAfter recording (a.handleMessage m).2 =
      if m = .clientData .acceptVideo then true
      else if m = .clientData .handUpVideo then false
      else if m.stopsIfStart then recording && !a.isStart
      else recording := by
  cases m with
  | clientConnectSuccess => rfl
  | clientConnectFail =>
    by_cases hs : a.isStart <;>
      simp [handleMessage, clientConnectFail, recordingAfter, Message.stopsIfStart, hs]
  | clientData c => cases c <;> rfl
  | serverConnectFail =>
    by_cases hs : a.isStart <;>
      simp [handleMessage, serverConnectFail, recordingAfter, Message.stopsIfStart, hs]
  | serverData c =>
    cases c with
    | handUpVideo =>
      by_cases hs : a.isStart <;>
        simp [handleMessage, serverReceive, recordingAfter, Message.stopsIfStart, hs]
    | requestVideo => rfl
    | acceptVideo => rfl
    | refuseVideo => rfl
    | ending => rfl

/-- The stop button stops the recording in any case. -/
theorem recordingAfter_stopClick (isConnect : Bool) :
    recordingAfter recording (a.stopClick isConnect).2 = false := by
  rw [stopClick, recordingAfter, List.foldl_append]
  rfl

/-- Accepting a call in the dialog starts the recording if there is an address; it leaves `isStart`
alone. -/
theorem recordingAfter_acceptClick (dialog : ℕ) (address : Option α) :
    (a.acceptClick dialog address).1.isStart = a.isStart ∧
      recordingAfter recording (a.acceptClick dialog address).2 =
        (address.isSome || recording) := by
  by_cases hsome : address.isSome <;> simp [acceptClick, dismiss, recordingAfter, hsome]

end Recording

end Activity

end DoorIntercom
