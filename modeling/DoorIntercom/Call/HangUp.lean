import DoorIntercom.Call.MainActivity
import DoorIntercom.Lib.Transition
import Mathlib.Logic.Function.Basic

/-!
# Calls between two phones

Two devices that run `MainActivity`, each with a client that calls the other one's server. A command
that a handler sends is in flight until it arrives, in any order, or is lost; a thread that connects
or receives may fail at any time. This is more than TCP does, so that what holds here in every run
holds in every run of the devices.

A hang-up must stop the video. The handlers ask `isStart` whether there is something to stop, and
the dialog does not set it. `recording_eq_false_iff` says what follows: along any run, the message
that ends a call stops the video exactly if the phone has `isStart` set or is not answering a call,
that is, has not accepted one in its dialog since the last call ended. The caller's video is always
stopped, the callee's only by the stop button or by a stale `isStart`.
-/

namespace DoorIntercom

open Activity

/-- The two phones. -/
inductive Phone
  | one
  | two
  deriving DecidableEq, Repr

/-- The phone at the other end. -/
def Phone.other : Phone → Phone
  | one => two
  | two => one

/-- A phone: the activity, the video view, the client's threads that are connecting and that are
receiving, whether the client has a socket, the server's receive threads and the address of the last
client, and the messages of the main thread. -/
structure PhoneState where
  activity : Activity Phone
  recording : Bool
  connecting : ℕ
  clientThreads : ℕ
  isConnect : Bool
  serverThreads : ℕ
  address : Option Phone
  messages : List Message
  deriving DecidableEq, Repr

namespace PhoneState

/-- A message for the main thread. -/
def post (s : PhoneState) (m : Message) : PhoneState := { s with messages := s.messages ++ [m] }

/-- The client's thread has connected. -/
def connected (s : PhoneState) : PhoneState :=
  { s.post .clientConnectSuccess with
    connecting := s.connecting - 1
    clientThreads := s.clientThreads + 1
    isConnect := true }

/-- The server has accepted a client. -/
def accepted (s : PhoneState) (client : Phone) : PhoneState :=
  { s with serverThreads := s.serverThreads + 1, address := some client }

end PhoneState

/-- Both phones and the commands in flight: `toServer p` from the client of `p` to the server of the
other phone, `toClient p` back. The last field is a history variable: the phone has accepted a call
in its dialog and started to record, and since then neither its stop button nor a message has ended
a call. -/
structure Call where
  phone : Phone → PhoneState
  toServer : Phone → List Command
  toClient : Phone → List Command
  answering : Phone → Bool

/-- What can happen next. -/
inductive CallEvent
  | callVideo (p : Phone)
  | stopClick (p : Phone)
  | acceptClick (p : Phone) (dialog : ℕ)
  | refuseClick (p : Phone) (dialog : ℕ)
  | connected (p : Phone)
  | connectFails (p : Phone)
  | clientReadFails (p : Phone)
  | serverReadFails (p : Phone)
  | arrivesAtServer (p : Phone) (i : ℕ)
  | arrivesAtClient (p : Phone) (i : ℕ)
  | lostToServer (p : Phone) (i : ℕ)
  | lostToClient (p : Phone) (i : ℕ)
  | handleMessage (p : Phone)
  deriving DecidableEq, Repr

namespace Call

/-- Both phones idle. -/
def idle : Call where
  phone _ := ⟨Activity.idle, false, 0, 0, false, 0, none, []⟩
  toServer _ := []
  toClient _ := []
  answering _ := false

/-- The state of one phone is replaced. -/
def setPhone (w : Call) (p : Phone) (s : PhoneState) : Call :=
  { w with phone := Function.update w.phone p s }

/-- The effects of a handler on the client's side of the phone and on the commands in flight. -/
def perform (p : Phone) (w : Call) : Effect Phone → Call
  | .clientConnect _ =>
    w.setPhone p { w.phone p with connecting := (w.phone p).connecting + 1 }
  | .clientSend c => { w with toServer := Function.update w.toServer p (w.toServer p ++ [c]) }
  | .clientDisconnect => w.setPhone p { w.phone p with isConnect := false }
  | .serverSend c =>
    { w with toClient := Function.update w.toClient p.other (w.toClient p.other ++ [c]) }
  | .serverDisconnect => w
  | .initSocket _ => w
  | .startRecod => w.setPhone p { w.phone p with recording := true }
  | .stopRecord => w.setPhone p { w.phone p with recording := false }

/-- A handler runs on the main thread of a phone, and its history variable is set. -/
def run (w : Call) (p : Phone) (answering : Bool)
    (handler : Activity Phone → Activity Phone × List (Effect Phone)) : Call :=
  let w := (handler (w.phone p).activity).2.foldl (perform p)
    (w.setPhone p { w.phone p with activity := (handler (w.phone p).activity).1 })
  { w with answering := Function.update w.answering p answering }

/-- The step of an event. -/
def step (w : Call) : CallEvent → Option Call
  | .callVideo p => some (w.run p (w.answering p) (Activity.callVideo (some p.other)))
  | .stopClick p => some (w.run p false (Activity.stopClick (w.phone p).isConnect))
  | .acceptClick p dialog =>
    if dialog ∈ (w.phone p).activity.dialogs then
      some (w.run p ((w.phone p).address.isSome || w.answering p)
        (Activity.acceptClick dialog (w.phone p).address))
    else none
  | .refuseClick p dialog =>
    if dialog ∈ (w.phone p).activity.dialogs then
      some (w.run p (w.answering p) (Activity.refuseClick dialog))
    else none
  | .connected p =>
    if (w.phone p).connecting = 0 then none
    else
      some ((w.setPhone p (w.phone p).connected).setPhone p.other ((w.phone p.other).accepted p))
  | .connectFails p =>
    if (w.phone p).connecting = 0 then none
    else
      some (w.setPhone p { (w.phone p).post .clientConnectFail with
        connecting := (w.phone p).connecting - 1 })
  | .clientReadFails p =>
    if (w.phone p).clientThreads = 0 then none
    else
      some (w.setPhone p { (w.phone p).post .clientConnectFail with
        clientThreads := (w.phone p).clientThreads - 1 })
  | .serverReadFails p =>
    if (w.phone p).serverThreads = 0 then none
    else
      some (w.setPhone p { (w.phone p).post .serverConnectFail with
        serverThreads := (w.phone p).serverThreads - 1 })
  | .arrivesAtServer p i =>
    (w.toServer p)[i]?.map fun c ↦
      { w.setPhone p.other ((w.phone p.other).post (.serverData c)) with
        toServer := Function.update w.toServer p ((w.toServer p).eraseIdx i) }
  | .arrivesAtClient p i =>
    (w.toClient p)[i]?.map fun c ↦
      { w.setPhone p ((w.phone p).post (.clientData c)) with
        toClient := Function.update w.toClient p ((w.toClient p).eraseIdx i) }
  | .lostToServer p i =>
    some { w with toServer := Function.update w.toServer p ((w.toServer p).eraseIdx i) }
  | .lostToClient p i =>
    some { w with toClient := Function.update w.toClient p ((w.toClient p).eraseIdx i) }
  | .handleMessage p =>
    match (w.phone p).messages with
    | [] => none
    | m :: messages =>
      some ((w.setPhone p { w.phone p with messages }).run p (!m.endsCall && w.answering p)
        (Activity.handleMessage m))

end Call

/-- The system of the two phones. -/
def calls : TransitionSystem Call CallEvent := ⟨Call.idle, Call.step⟩

/-! ### What an event does to the recordings -/

section Step

variable {w w' : Call} {p q : Phone}

theorem Phone.other_ne (p : Phone) : p.other ≠ p := by
  cases p <;> decide

@[simp] theorem Call.setPhone_self (s : PhoneState) : (w.setPhone p s).phone p = s :=
  Function.update_self ..

theorem Call.setPhone_of_ne (s : PhoneState) (h : q ≠ p) :
    (w.setPhone p s).phone q = w.phone q :=
  Function.update_of_ne h ..

/-- Effects touch the recording of their own phone, no activity and no history. -/
theorem Call.foldl_perform (effects : List (Effect Phone)) (w : Call) :
    ((effects.foldl (perform p) w).phone p).activity = (w.phone p).activity ∧
      ((effects.foldl (perform p) w).phone p).recording =
        recordingAfter (w.phone p).recording effects ∧
      (effects.foldl (perform p) w).answering = w.answering ∧
      ∀ q ≠ p, (effects.foldl (perform p) w).phone q = w.phone q := by
  induction effects generalizing w with
  | nil => exact ⟨rfl, rfl, rfl, fun _ _ ↦ rfl⟩
  | cons effect effects ih =>
    obtain ⟨hact, hrec, hans, hne⟩ := ih (perform p w effect)
    rw [List.foldl_cons, hact, hrec, hans]
    cases effect <;>
      refine ⟨by simp [perform], by simp [perform, recordingAfter], rfl, fun q hq ↦ ?_⟩ <;>
      rw [hne q hq] <;> first | rfl | exact setPhone_of_ne _ hq

/-- **A handler** changes its own phone's activity and history, and the recording by its effects. -/
theorem Call.run_spec (answering : Bool)
    (handler : Activity Phone → Activity Phone × List (Effect Phone)) :
    ((w.run p answering handler).phone p).activity = (handler (w.phone p).activity).1 ∧
      ((w.run p answering handler).phone p).recording =
        recordingAfter (w.phone p).recording (handler (w.phone p).activity).2 ∧
      (w.run p answering handler).answering p = answering ∧
      ∀ q ≠ p, (w.run p answering handler).phone q = w.phone q ∧
        (w.run p answering handler).answering q = w.answering q := by
  obtain ⟨hact, hrec, hans, hne⟩ := foldl_perform (p := p) (handler (w.phone p).activity).2
    (w.setPhone p { w.phone p with activity := (handler (w.phone p).activity).1 })
  rw [setPhone_self] at hact hrec
  refine ⟨hact, hrec, Function.update_self .., fun q hq ↦ ⟨?_, ?_⟩⟩
  · exact (hne q hq).trans (setPhone_of_ne _ hq)
  · refine (Function.update_of_ne hq ..).trans ?_
    rw [hans]
    rfl

end Step

/-! ### The invariant -/

/-- A message that asks `isStart` is handled while `isStart` is set, or while the phone is not
answering a call. -/
def EndsWhileStarted (w : Call) : CallEvent → Prop
  | .handleMessage p => ∀ m, (w.phone p).messages.head? = some m → m.stopsIfStart →
      w.answering p = false ∨ (w.phone p).activity.isStart = true
  | _ => True

/-- A phone records only if `isStart` is set or it is answering a call, and an answering phone
records. -/
def Accounted (isStart recording answering : Bool) : Prop :=
  (recording = true → isStart = true ∨ answering = true) ∧ (answering = true → recording = true)

/-- The recordings of both phones are accounted for. -/
def RecordingsAccounted (w : Call) : Prop :=
  ∀ p, Accounted (w.phone p).activity.isStart (w.phone p).recording (w.answering p)

section Invariant

variable {w w' : Call} {p : Phone}

/-- A phone that keeps its activity and its recording stays accounted for. -/
theorem RecordingsAccounted.setPhone (h : RecordingsAccounted w) {s : PhoneState}
    (hact : s.activity = (w.phone p).activity) (hrec : s.recording = (w.phone p).recording) :
    RecordingsAccounted (w.setPhone p s) := by
  intro q
  by_cases hq : q = p
  · subst hq
    rw [Call.setPhone_self, hact, hrec]
    exact h q
  · rw [Call.setPhone_of_ne s hq]
    exact h q

/-- A handler that accounts for the recording of its phone. -/
theorem RecordingsAccounted.run (h : RecordingsAccounted w) {answering : Bool}
    {handler : Activity Phone → Activity Phone × List (Effect Phone)}
    (hhandler : Accounted (handler (w.phone p).activity).1.isStart
      (recordingAfter (w.phone p).recording (handler (w.phone p).activity).2) answering) :
    RecordingsAccounted (w.run p answering handler) := by
  obtain ⟨hact, hrec, hans, hne⟩ := Call.run_spec (w := w) (p := p) answering handler
  intro q
  by_cases hq : q = p
  · subst hq
    rwa [hact, hrec, hans]
  · rw [(hne q hq).1, (hne q hq).2]
    exact h q

/-- **The message that ends a call** leaves no recording behind exactly if it does not ask
`isStart`, or `isStart` is set, or the phone is not answering. -/
theorem Accounted.recordingAfter_eq_false_iff {a : Activity Phone} {recording answering : Bool}
    (h : Accounted a.isStart recording answering) {m : Message} (hend : m.endsCall) :
    recordingAfter recording (a.handleMessage m).2 = false ↔
      (m.stopsIfStart → answering = false ∨ a.isStart = true) := by
  have haccept : m ≠ .clientData .acceptVideo := by
    rintro rfl
    exact absurd hend (by decide)
  obtain ⟨hrec, hans⟩ := h
  rw [Activity.recordingAfter_handleMessage, if_neg haccept]
  by_cases hclient : m = .clientData .handUpVideo
  · subst hclient
    simp [Message.stopsIfStart]
  · have hstops : m.stopsIfStart = true := by
      simpa [Message.endsCall, hclient] using hend
    simp only [if_neg hclient, hstops, if_true, forall_const]
    -- `h` rules out a recording phone that has neither started nor answered a call
    cases recording <;> cases answering <;> cases hs : a.isStart <;> simp_all

/-- A message keeps the recording accounted for, if it meets the condition. -/
theorem Accounted.handleMessage {a : Activity Phone} {recording answering : Bool}
    (h : Accounted a.isStart recording answering) {m : Message}
    (hok : m.stopsIfStart → answering = false ∨ a.isStart = true) :
    Accounted (a.handleMessage m).1.isStart (recordingAfter recording (a.handleMessage m).2)
      (!m.endsCall && answering) := by
  by_cases hend : m.endsCall = true
  · rw [(h.recordingAfter_eq_false_iff hend).2 hok, hend]
    exact ⟨fun hfalse ↦ absurd hfalse Bool.false_ne_true, fun hfalse ↦ absurd hfalse (by simp)⟩
  · have hstops : m.stopsIfStart = false := by
      have hboth := Bool.eq_false_iff.2 hend
      rw [Message.endsCall, Bool.or_eq_false_iff] at hboth
      exact hboth.1
    have hclient : m ≠ .clientData .handUpVideo := by
      rintro rfl
      exact hend rfl
    rw [Activity.isStart_handleMessage, Activity.recordingAfter_handleMessage, if_neg hclient,
      hstops, Bool.eq_false_iff.2 hend]
    by_cases haccept : m = .clientData .acceptVideo
    · rw [if_pos haccept, if_pos haccept]
      exact ⟨fun _ ↦ Or.inl rfl, fun _ ↦ rfl⟩
    · rw [if_neg haccept, if_neg haccept]
      exact h

/-- **Every step** that meets the condition keeps the recordings accounted for. -/
theorem RecordingsAccounted.step {e : CallEvent} (h : RecordingsAccounted w)
    (hok : EndsWhileStarted w e) (hstep : calls.step w e = some w') : RecordingsAccounted w' := by
  change w.step e = some w' at hstep
  cases e with
  | callVideo p =>
    cases hstep
    exact h.run (h p)
  | stopClick p =>
    cases hstep
    refine h.run ?_
    rw [Activity.recordingAfter_stopClick]
    exact ⟨fun hfalse ↦ absurd hfalse Bool.false_ne_true,
      fun hfalse ↦ absurd hfalse Bool.false_ne_true⟩
  | acceptClick p dialog =>
    simp only [Call.step] at hstep
    split_ifs at hstep
    cases hstep
    refine h.run ?_
    obtain ⟨hact, hrec⟩ := (w.phone p).activity.recordingAfter_acceptClick (w.phone p).recording
      dialog (w.phone p).address
    rw [hact, hrec]
    obtain ⟨hstart, hans⟩ := h p
    -- without an address the dialog only writes its answer: nothing is recorded
    cases hsome : (w.phone p).address.isSome with
    | false => exact ⟨hstart, hans⟩
    | true => exact ⟨fun _ ↦ Or.inr rfl, fun _ ↦ rfl⟩
  | refuseClick p dialog =>
    simp only [Call.step] at hstep
    split_ifs at hstep
    cases hstep
    exact h.run (h p)
  | connected p =>
    simp only [Call.step] at hstep
    split_ifs at hstep
    cases hstep
    -- a connection changes both ends: the caller's client and the other phone's server
    have hself : RecordingsAccounted (w.setPhone p (w.phone p).connected) := h.setPhone rfl rfl
    refine hself.setPhone ?_ ?_ <;>
      rw [Call.setPhone_of_ne _ p.other_ne] <;> rfl
  | connectFails p =>
    simp only [Call.step] at hstep
    split_ifs at hstep
    cases hstep
    exact h.setPhone rfl rfl
  | clientReadFails p =>
    simp only [Call.step] at hstep
    split_ifs at hstep
    cases hstep
    exact h.setPhone rfl rfl
  | serverReadFails p =>
    simp only [Call.step] at hstep
    split_ifs at hstep
    cases hstep
    exact h.setPhone rfl rfl
  | arrivesAtServer p i =>
    obtain ⟨c, -, rfl⟩ := Option.map_eq_some_iff.1 hstep
    exact RecordingsAccounted.setPhone (p := p.other)
      (s := (w.phone p.other).post (.serverData c)) h rfl rfl
  | arrivesAtClient p i =>
    obtain ⟨c, -, rfl⟩ := Option.map_eq_some_iff.1 hstep
    exact RecordingsAccounted.setPhone (p := p) (s := (w.phone p).post (.clientData c)) h rfl rfl
  | lostToServer p i =>
    cases hstep
    exact h
  | lostToClient p i =>
    cases hstep
    exact h
  | handleMessage p =>
    simp only [Call.step] at hstep
    cases hm : (w.phone p).messages with
    | nil => simp [hm] at hstep
    | cons m messages =>
      simp only [hm] at hstep
      cases hstep
      have hset : RecordingsAccounted (w.setPhone p { w.phone p with messages }) :=
        h.setPhone rfl rfl
      refine hset.run ?_
      rw [Call.setPhone_self]
      exact (h p).handleMessage (hok m (by rw [hm, List.head?_cons]))

/-- **Every run** whose steps meet the condition keeps the recordings accounted for. -/
theorem recordingsAccounted_of_reachIf (h : calls.ReachIf EndsWhileStarted w) :
    RecordingsAccounted w := by
  refine h.invariant (fun p ↦ ?_) fun _ _ _ hs hok hstep ↦ hs.step hok hstep
  exact ⟨fun hfalse ↦ absurd hfalse Bool.false_ne_true,
    fun hfalse ↦ absurd hfalse Bool.false_ne_true⟩

end Invariant

/-- **A hang-up stops the video.** Along a run whose steps meet the condition, the next message that
ends a call leaves its phone not recording if and only if handling it meets the condition too: the
phone is not answering a call, or has `isStart` set, or the message is a hang-up on the client
connection. -/
theorem recording_eq_false_iff {w w' : Call} (h : calls.ReachIf EndsWhileStarted w) {p : Phone}
    {m : Message} (hm : (w.phone p).messages.head? = some m) (hend : m.endsCall)
    (hstep : calls.step w (.handleMessage p) = some w') :
    (w'.phone p).recording = false ↔ EndsWhileStarted w (.handleMessage p) := by
  obtain ⟨messages, hmessages⟩ := List.head?_eq_some_iff.1 hm
  change w.step (.handleMessage p) = some w' at hstep
  simp only [Call.step, hmessages] at hstep
  cases hstep
  obtain ⟨-, hrec, -⟩ := Call.run_spec (w := w.setPhone p { w.phone p with messages }) (p := p)
    (!m.endsCall && w.answering p) (Activity.handleMessage m)
  rw [hrec, Call.setPhone_self,
    (recordingsAccounted_of_reachIf h p).recordingAfter_eq_false_iff hend]
  simp only [EndsWhileStarted, hm, Option.some.injEq, forall_eq']

/-- A message that does not ask `isStart` meets the condition. -/
theorem endsWhileStarted_of_head {w : Call} {p : Phone} {m : Message}
    (hm : (w.phone p).messages.head? = some m) (hstops : m.stopsIfStart = false) :
    EndsWhileStarted w (.handleMessage p) := by
  intro m' hm' hstops'
  rw [hm] at hm'
  cases hm'
  rw [hstops] at hstops'
  cases hstops'

/-- One calls two, two accepts, one records; two presses stop: the hang-up stops one's video. -/
theorem recording_eq_false_caller : ∃ w w', calls.ReachIf EndsWhileStarted w ∧
    (w.phone .one).recording = true ∧ calls.step w (.handleMessage .one) = some w' ∧
      (w'.phone .one).recording = false := by
  have hinit : calls.ReachIf EndsWhileStarted .idle := .init
  have hrun := hinit
    |>.step (a := .callVideo .one) (by trivial) rfl
    |>.step (a := .connected .one) (by trivial) rfl
    |>.step (a := .handleMessage .one) (endsWhileStarted_of_head rfl rfl) rfl
    |>.step (a := .arrivesAtServer .one 0) (by trivial) rfl
    |>.step (a := .handleMessage .two) (endsWhileStarted_of_head rfl rfl) rfl
    |>.step (a := .acceptClick .two 0) (by trivial) rfl
    |>.step (a := .arrivesAtClient .one 0) (by trivial) rfl
    |>.step (a := .handleMessage .one) (endsWhileStarted_of_head rfl rfl) rfl
    |>.step (a := .stopClick .two) (by trivial) rfl
    |>.step (a := .arrivesAtClient .one 0) (by trivial) rfl
  exact ⟨_, _, hrun, rfl, rfl, (recording_eq_false_iff hrun (m := .clientData .handUpVideo) rfl rfl
    rfl).2 (endsWhileStarted_of_head rfl rfl)⟩

/-- One calls two, two accepts and records; one presses stop: after the hang-up, two records. -/
theorem recording_after_handUp : ∃ w w',
    calls.exec calls.init [.callVideo .one, .connected .one, .handleMessage .one,
      .arrivesAtServer .one 0, .handleMessage .two, .acceptClick .two 0, .stopClick .one,
      .arrivesAtServer .one 0] = some w ∧
    (w.phone .two).messages.head? = some (.serverData .handUpVideo) ∧
      calls.step w (.handleMessage .two) = some w' ∧ (w'.phone .two).recording = true :=
  ⟨_, _, rfl, rfl, rfl, rfl⟩

end DoorIntercom
