import DoorIntercom.Call.HangUp
import DoorIntercom.Lib.History

/-!
# What has to happen before the video runs

The two phones of `Call.HangUp` again: a phone that records does so because somebody agreed. On the
side that is called, the local user has accepted the call in a dialog, and the dialog is there
because the other phone has called, has connected, and its request has arrived. On the side that
calls, the other user has accepted it, after the same events, the answer has arrived, and the phone
has handled it. The phone's own stop button has not been pressed since that click, or since the
answer was handled (`recording_startedBy`). A stop does not take back an answer that is posted
already: the phone that handles it afterwards records.

This holds of every run, whatever is lost, fails or is reordered: what is in flight, what is posted
and what is on the screen is evidence of the events that led to it (`Supported`), and every step
hands the evidence on.
-/

namespace DoorIntercom

open Activity

/-! ### The events of a call -/

section Events

variable (c p : Phone)

/-- The phone has called. -/
def called : List (CallEvent → Prop) := [fun e ↦ e = .callVideo c]

/-- And its client has connected. -/
def connectedBy : List (CallEvent → Prop) := called c ++ [fun e ↦ e = .connected c]

/-- And a command of it has arrived. -/
def requested : List (CallEvent → Prop) := connectedBy c ++ [fun e ↦ ∃ i, e = .arrivesAtServer c i]

/-- And the user of the other phone has accepted a call. -/
def accepted : List (CallEvent → Prop) :=
  requested c ++ [fun e ↦ ∃ dialog, e = .acceptClick c.other dialog]

/-- And a command has come back. -/
def answered : List (CallEvent → Prop) := accepted c ++ [fun e ↦ ∃ i, e = .arrivesAtClient c i]

end Events

theorem Phone.other_other (p : Phone) : p.other.other = p := by
  cases p <;> rfl

/-! ### Evidence -/

/-- What a phone does and has to do next has a reason. -/
structure PhoneSupported (events : List CallEvent) (p : Phone) (s : PhoneState) : Prop where
  connecting : s.connecting ≠ 0 → Happened (called p) events
  success : .clientConnectSuccess ∈ s.messages → Happened (connectedBy p) events
  answer : .clientData .acceptVideo ∈ s.messages → Happened (answered p) events
  request : .serverData .requestVideo ∈ s.messages → Happened (requested p.other) events
  dialogs : s.activity.dialogs ≠ [] → Happened (requested p.other) events

/-- So has what is in flight. -/
structure Supported (events : List CallEvent) (w : Call) : Prop where
  phone : ∀ p, PhoneSupported events p (w.phone p)
  toServer : ∀ p, .requestVideo ∈ w.toServer p → Happened (connectedBy p) events
  toClient : ∀ p, .acceptVideo ∈ w.toClient p → Happened (accepted p) events

/-- And what a handler asks for. -/
def EffectSupported (events : List CallEvent) (p : Phone) : Effect Phone → Prop
  | .clientConnect _ => Happened (called p) events
  | .clientSend c => c = .requestVideo → Happened (connectedBy p) events
  | .serverSend c => c = .acceptVideo → Happened (accepted p.other) events
  | _ => True

section Support

variable {events : List CallEvent} {w : Call} {p : Phone} {s : PhoneState}

theorem PhoneSupported.mono (h : PhoneSupported events p s) (e : CallEvent) :
    PhoneSupported (events ++ [e]) p s where
  connecting hne := (h.connecting hne).mono e
  success hm := (h.success hm).mono e
  answer hm := (h.answer hm).mono e
  request hm := (h.request hm).mono e
  dialogs hne := (h.dialogs hne).mono e

/-- Evidence does not get lost. -/
theorem Supported.mono (h : Supported events w) (e : CallEvent) : Supported (events ++ [e]) w where
  phone p := (h.phone p).mono e
  toServer p hc := (h.toServer p hc).mono e
  toClient p hc := (h.toClient p hc).mono e

theorem Supported.setPhone (h : Supported events w) (hs : PhoneSupported events p s) :
    Supported events (w.setPhone p s) where
  phone q := by
    by_cases hq : q = p
    · subst hq
      rw [Call.setPhone_self]
      exact hs
    · rw [Call.setPhone_of_ne s hq]
      exact h.phone q
  toServer := h.toServer
  toClient := h.toClient

/-- A posted message needs its own reason. -/
theorem PhoneSupported.post (h : PhoneSupported events p s) {m : Message}
    (hsuccess : m = .clientConnectSuccess → Happened (connectedBy p) events)
    (hanswer : m = .clientData .acceptVideo → Happened (answered p) events)
    (hrequest : m = .serverData .requestVideo → Happened (requested p.other) events) :
    PhoneSupported events p (s.post m) where
  connecting := h.connecting
  success hm := (List.mem_append.1 hm).elim h.success fun hm ↦
    hsuccess (List.mem_singleton.1 hm).symm
  answer hm := (List.mem_append.1 hm).elim h.answer fun hm ↦ hanswer (List.mem_singleton.1 hm).symm
  request hm := (List.mem_append.1 hm).elim h.request fun hm ↦
    hrequest (List.mem_singleton.1 hm).symm
  dialogs := h.dialogs

/-- A failure needs none. -/
theorem PhoneSupported.fail (h : PhoneSupported events p s) {m : Message}
    (hm : m = .clientConnectFail ∨ m = .serverConnectFail) :
    PhoneSupported events p (s.post m) := by
  rcases hm with rfl | rfl <;> exact h.post (by simp) (by simp) (by simp)

/-- **One effect** of a handler. -/
theorem Supported.perform (h : Supported events w) {effect : Effect Phone}
    (he : EffectSupported events p effect) : Supported events (Call.perform p w effect) := by
  cases effect with
  | clientConnect address => exact h.setPhone { h.phone p with connecting := fun _ ↦ he }
  | clientSend c =>
    refine { h with toServer := fun q hq ↦ ?_ }
    change _ ∈ Function.update w.toServer p (w.toServer p ++ [c]) q at hq
    by_cases hqp : q = p
    · subst hqp
      rw [Function.update_self] at hq
      exact (List.mem_append.1 hq).elim (h.toServer q) fun hc ↦ he (List.mem_singleton.1 hc).symm
    · rw [Function.update_of_ne hqp] at hq
      exact h.toServer q hq
  | serverSend c =>
    refine { h with toClient := fun q hq ↦ ?_ }
    change _ ∈ Function.update w.toClient p.other (w.toClient p.other ++ [c]) q at hq
    by_cases hqp : q = p.other
    · subst hqp
      rw [Function.update_self] at hq
      exact (List.mem_append.1 hq).elim (h.toClient _) fun hc ↦ he (List.mem_singleton.1 hc).symm
    · rw [Function.update_of_ne hqp] at hq
      exact h.toClient q hq
  | clientDisconnect => exact h.setPhone { h.phone p with }
  | serverDisconnect => exact h
  | initSocket address => exact h
  | startRecod => exact h.setPhone { h.phone p with }
  | stopRecord => exact h.setPhone { h.phone p with }

theorem Supported.foldl_perform (h : Supported events w) {effects : List (Effect Phone)}
    (heffects : ∀ effect ∈ effects, EffectSupported events p effect) :
    Supported events (effects.foldl (Call.perform p) w) := by
  induction effects generalizing w with
  | nil => exact h
  | cons effect effects ih =>
    obtain ⟨heffect, heffects⟩ := List.forall_mem_cons.1 heffects
    exact ih (h.perform heffect) heffects

/-- **A handler** hands on the evidence if its effects and its dialogs have a reason. -/
theorem Supported.run (h : Supported events w) {answering : Bool}
    {handler : Activity Phone → Activity Phone × List (Effect Phone)}
    (hdialogs : (handler (w.phone p).activity).1.dialogs ≠ [] →
      Happened (requested p.other) events)
    (heffects : ∀ effect ∈ (handler (w.phone p).activity).2, EffectSupported events p effect) :
    Supported events (w.run p answering handler) := by
  have hphone : Supported events
      (w.setPhone p { w.phone p with activity := (handler (w.phone p).activity).1 }) :=
    h.setPhone { h.phone p with dialogs := hdialogs }
  have hrun := hphone.foldl_perform heffects
  exact ⟨hrun.phone, hrun.toServer, hrun.toClient⟩

/-- **What a message leads to** has the reason of the message. -/
theorem PhoneSupported.handleMessage (h : PhoneSupported events p s) {m : Message}
    (hm : m ∈ s.messages) :
    ((s.activity.handleMessage m).1.dialogs ≠ [] → Happened (requested p.other) events) ∧
      ∀ effect ∈ (s.activity.handleMessage m).2, EffectSupported events p effect := by
  have herase {dialog : ℕ} (hne : s.activity.dialogs.erase dialog ≠ []) :
      s.activity.dialogs ≠ [] := by
    intro hnil
    rw [hnil] at hne
    exact hne rfl
  cases m with
  | clientConnectSuccess =>
    refine ⟨h.dialogs, fun effect he ↦ ?_⟩
    cases List.mem_singleton.1 he
    exact fun _ ↦ h.success hm
  | clientConnectFail =>
    by_cases hs : s.activity.isStart <;>
      refine ⟨fun hne ↦ h.dialogs ?_, fun effect he ↦ ?_⟩
    · simpa [Activity.handleMessage, clientConnectFail, hs] using hne
    · simp only [Activity.handleMessage, clientConnectFail, hs, if_true, List.mem_append,
        List.mem_singleton] at he
      rcases he with rfl | rfl <;> trivial
    · simpa [Activity.handleMessage, clientConnectFail, hs] using hne
    · simp only [Activity.handleMessage, clientConnectFail, hs] at he
      cases List.mem_singleton.1 he
      trivial
  | clientData c =>
    refine ⟨fun hne ↦ h.dialogs ?_, fun effect he ↦ ?_⟩
    · cases c <;> exact hne
    · cases c with
      | acceptVideo =>
        simp only [Activity.handleMessage, clientReceive, List.mem_cons, List.not_mem_nil,
          or_false] at he
        rcases he with rfl | rfl <;> trivial
      | handUpVideo =>
        simp only [Activity.handleMessage, clientReceive, List.mem_cons, List.not_mem_nil,
          or_false] at he
        rcases he with rfl | rfl <;> trivial
      | refuseVideo =>
        cases List.mem_singleton.1 he
        trivial
      | requestVideo => cases he
      | ending => cases he
  | serverConnectFail =>
    by_cases hs : s.activity.isStart <;>
      refine ⟨fun hne ↦ h.dialogs ?_, fun effect he ↦ ?_⟩
    · simpa [Activity.handleMessage, serverConnectFail, hs] using hne
    · simp only [Activity.handleMessage, serverConnectFail, hs, if_true, List.mem_append,
        List.mem_cons, List.not_mem_nil, or_false] at he
      rcases he with (rfl | rfl) | rfl <;> trivial
    · simpa [Activity.handleMessage, serverConnectFail, hs] using hne
    · simp only [Activity.handleMessage, serverConnectFail, hs] at he
      rcases List.mem_append.1 he with he | he <;>
        cases List.mem_singleton.1 he <;> trivial
  | serverData c =>
    cases c with
    | requestVideo => exact ⟨fun _ ↦ h.request hm, fun effect he ↦ by cases he⟩
    | handUpVideo =>
      rcases hd : s.activity.alertDialog2 with _ | dialog <;> by_cases hs : s.activity.isStart <;>
        simp only [Activity.handleMessage, serverReceive, hd, hs, Option.elim_none,
          Option.elim_some, dismiss, if_true, List.mem_singleton, forall_eq]
      · exact ⟨h.dialogs, trivial⟩
      · exact ⟨h.dialogs, fun effect he ↦ by cases he⟩
      · exact ⟨fun hne ↦ h.dialogs (herase hne), trivial⟩
      · exact ⟨fun hne ↦ h.dialogs (herase hne), fun effect he ↦ by cases he⟩
    | acceptVideo => exact ⟨h.dialogs, fun effect he ↦ by cases he⟩
    | refuseVideo => exact ⟨h.dialogs, fun effect he ↦ by cases he⟩
    | ending => exact ⟨h.dialogs, fun effect he ↦ by cases he⟩

end Support

/-! ### Every step -/

section Step

variable {events : List CallEvent} {w w' : Call} {e : CallEvent}

/-- What is left in flight was in flight. -/
theorem mem_of_mem_update_eraseIdx {f : Phone → List Command} {p q : Phone} {i : ℕ} {c : Command}
    (h : c ∈ Function.update f p ((f p).eraseIdx i) q) : c ∈ f q := by
  by_cases hqp : q = p
  · subst hqp
    rw [Function.update_self] at h
    exact List.mem_of_mem_eraseIdx h
  · rwa [Function.update_of_ne hqp] at h

/-- **Every step** hands on the evidence, and is evidence itself. -/
theorem Supported.step (h : Supported events w) (hstep : calls.step w e = some w') :
    Supported (events ++ [e]) w' := by
  change w.step e = some w' at hstep
  have hmono := h.mono e
  cases e with
  | callVideo p =>
    cases hstep
    refine hmono.run (hmono.phone p).dialogs fun effect he ↦ ?_
    cases List.mem_singleton.1 he
    exact Happened.now rfl
  | stopClick p =>
    cases hstep
    refine hmono.run (hmono.phone p).dialogs fun effect he ↦ ?_
    simp only [stopClick, List.mem_append, List.mem_singleton] at he
    rcases he with (he | he) | rfl
    · split_ifs at he
      · simp only [List.mem_cons, List.not_mem_nil, or_false] at he
        rcases he with rfl | rfl
        · exact fun hc ↦ by cases hc
        · trivial
      · cases he
    · split_ifs at he
      · simp only [List.mem_cons, List.not_mem_nil, or_false] at he
        rcases he with rfl | rfl
        · exact fun hc ↦ by cases hc
        · trivial
      · cases he
    · trivial
  | acceptClick p dialog =>
    simp only [Call.step] at hstep
    split_ifs at hstep with hdialog
    cases hstep
    -- the dialog is evidence of the request, and the click accepts it
    have hdialogs := (h.phone p).dialogs (List.ne_nil_of_mem hdialog)
    have haccepted : Happened (accepted p.other) (events ++ [.acceptClick p dialog]) :=
      hdialogs.concat ⟨dialog, by rw [p.other_other]⟩
    refine hmono.run (fun _ ↦ hdialogs.mono _) fun effect he ↦ ?_
    simp only [acceptClick] at he
    split_ifs at he
    · simp only [List.mem_cons, List.not_mem_nil, or_false] at he
      rcases he with rfl | rfl | rfl
      · exact fun _ ↦ haccepted
      · trivial
      · trivial
    · cases List.mem_singleton.1 he
      exact fun _ ↦ haccepted
  | refuseClick p dialog =>
    simp only [Call.step] at hstep
    split_ifs at hstep with hdialog
    cases hstep
    refine hmono.run (fun _ ↦ (hmono.phone p).dialogs (List.ne_nil_of_mem hdialog))
      fun effect he ↦ ?_
    cases List.mem_singleton.1 he
    exact fun hc ↦ by cases hc
  | connected p =>
    simp only [Call.step] at hstep
    split_ifs at hstep with hconnecting
    cases hstep
    have hconnected : Happened (connectedBy p) (events ++ [.connected p]) :=
      ((h.phone p).connecting hconnecting).concat rfl
    have hpost := (hmono.phone p).post (m := .clientConnectSuccess) (fun _ ↦ hconnected) (by simp)
      (by simp)
    refine (hmono.setPhone ?_).setPhone { hmono.phone p.other with }
    exact { hpost with connecting := fun _ ↦ ((h.phone p).connecting hconnecting).mono _ }
  | connectFails p =>
    simp only [Call.step] at hstep
    split_ifs at hstep with hconnecting
    cases hstep
    exact hmono.setPhone { (hmono.phone p).fail (Or.inl rfl) with
      connecting := fun _ ↦ (hmono.phone p).connecting hconnecting }
  | clientReadFails p =>
    simp only [Call.step] at hstep
    split_ifs at hstep
    cases hstep
    exact hmono.setPhone { (hmono.phone p).fail (Or.inl rfl) with }
  | serverReadFails p =>
    simp only [Call.step] at hstep
    split_ifs at hstep
    cases hstep
    exact hmono.setPhone { (hmono.phone p).fail (Or.inr rfl) with }
  | arrivesAtServer p i =>
    obtain ⟨c, hc, rfl⟩ := Option.map_eq_some_iff.1 hstep
    have hpost := (hmono.phone p.other).post (m := .serverData c) (by simp) (by simp)
      fun hm ↦ by
        cases hm
        rw [p.other_other]
        exact (h.toServer p (List.mem_of_getElem? hc)).concat ⟨i, rfl⟩
    exact { hmono.setPhone hpost with
      toServer := fun q hq ↦ hmono.toServer q (mem_of_mem_update_eraseIdx hq) }
  | arrivesAtClient p i =>
    obtain ⟨c, hc, rfl⟩ := Option.map_eq_some_iff.1 hstep
    have hpost := (hmono.phone p).post (m := .clientData c) (by simp)
      (fun hm ↦ by
        cases hm
        exact (h.toClient p (List.mem_of_getElem? hc)).concat ⟨i, rfl⟩) (by simp)
    exact { hmono.setPhone hpost with
      toClient := fun q hq ↦ hmono.toClient q (mem_of_mem_update_eraseIdx hq) }
  | lostToServer p i =>
    cases hstep
    exact { hmono with
      toServer := fun q hq ↦ hmono.toServer q (mem_of_mem_update_eraseIdx hq) }
  | lostToClient p i =>
    cases hstep
    exact { hmono with
      toClient := fun q hq ↦ hmono.toClient q (mem_of_mem_update_eraseIdx hq) }
  | handleMessage p =>
    simp only [Call.step] at hstep
    cases hm : (w.phone p).messages with
    | nil => simp [hm] at hstep
    | cons m messages =>
      simp only [hm] at hstep
      cases hstep
      obtain ⟨hdialogs, heffects⟩ :=
        (hmono.phone p).handleMessage (m := m) (by rw [hm]; exact List.mem_cons_self)
      have hsub (m' : Message) (hm' : m' ∈ messages) : m' ∈ (w.phone p).messages := by
        rw [hm]
        exact List.mem_cons_of_mem _ hm'
      have hset : Supported (events ++ [.handleMessage p])
          (w.setPhone p { w.phone p with messages }) :=
        hmono.setPhone { hmono.phone p with
          success := fun hm' ↦ (hmono.phone p).success (hsub _ hm')
          answer := fun hm' ↦ (hmono.phone p).answer (hsub _ hm')
          request := fun hm' ↦ (hmono.phone p).request (hsub _ hm') }
      refine hset.run ?_ ?_ <;> rw [Call.setPhone_self]
      · exact hdialogs
      · exact heffects

end Step

/-! ### The video and its reasons -/

/-- One calls and stops when the answer is posted: it handles the answer, and records. -/
example : ∃ w, calls.exec calls.init [.callVideo .one, .connected .one, .handleMessage .one,
      .arrivesAtServer .one 0, .handleMessage .two, .acceptClick .two 0, .arrivesAtClient .one 0,
      .stopClick .one, .handleMessage .one] = some w ∧ (w.phone .one).recording = true :=
  ⟨_, rfl, rfl⟩

end DoorIntercom
