import DoorIntercom.Lib.Transition
import Mathlib.Data.List.Forall2
import Mathlib.Data.List.Induction

/-!
# What has happened in a run

The state of a system often says something about the events that led to it. `Happened ps events`
says that the events contain one for each of the predicates `ps`, in this order, and `Since start
stop events` that some event started something, in view of those before it, and that nothing has
stopped it afterwards. `withBefore events` lists the events in view of those before them. All are
carried along a run by one lemma for each event that is added (`Happened.concat`, `Since.concat`,
`withBefore_concat`), and `exec_invariant` is the induction over the run.
-/

section History

variable {α : Type*}

/-- There have been events with these properties, in this order. -/
def Happened (ps : List (α → Prop)) (events : List α) : Prop :=
  ∃ l, l.Sublist events ∧ List.Forall₂ (fun p a ↦ p a) ps l

/-- An event has started something, and nothing after it has stopped it. -/
def Since (start : List α → α → Prop) (stop : α → Prop) (events : List α) : Prop :=
  ∃ before a after, events = before ++ a :: after ∧ start before a ∧ ∀ b ∈ after, ¬ stop b

variable {ps : List (α → Prop)} {p : α → Prop} {start : List α → α → Prop} {stop : α → Prop}
  {events : List α} {a : α}

/-- What has happened stays so. -/
theorem Happened.mono (h : Happened ps events) (a : α) : Happened ps (events ++ [a]) := by
  obtain ⟨l, hl, hps⟩ := h
  exact ⟨l, hl.trans (List.sublist_append_left _ _), hps⟩

/-- **The next event.** -/
theorem Happened.concat (h : Happened ps events) (hp : p a) :
    Happened (ps ++ [p]) (events ++ [a]) := by
  obtain ⟨l, hl, hps⟩ := h
  exact ⟨l ++ [a], hl.append (List.Sublist.refl _), List.rel_append hps (.cons hp .nil)⟩

theorem Happened.now (hp : p a) : Happened [p] (events ++ [a]) :=
  ⟨[a], List.sublist_append_right _ _, .cons hp .nil⟩

/-- Something starts. -/
theorem Since.now (h : start events a) : Since start stop (events ++ [a]) :=
  ⟨events, a, [], rfl, h, fun _ hb ↦ absurd hb List.not_mem_nil⟩

/-- And goes on. -/
theorem Since.concat (h : Since start stop events) (hstop : ¬ stop a) :
    Since start stop (events ++ [a]) := by
  obtain ⟨before, b, after, rfl, hstart, hafter⟩ := h
  refine ⟨before, b, after ++ [a], by simp, hstart, fun c hc ↦ ?_⟩
  rcases List.mem_append.1 hc with hc | hc
  · exact hafter c hc
  · rw [List.mem_singleton.1 hc]
    exact hstop

/-! ### Each event in view of those before it -/

/-- The events, each with those before it. -/
def withBefore (events : List α) : List (List α × α) :=
  events.mapIdx fun k a ↦ (events.take k, a)

/-- **The next event** leaves what there was. -/
theorem withBefore_concat (events : List α) (a : α) :
    withBefore (events ++ [a]) = withBefore events ++ [(events, a)] := by
  rw [withBefore, List.mapIdx_concat, List.take_left]
  refine congrArg (· ++ [(events, a)]) (List.mapIdx_eq_mapIdx_iff.2 fun k hk ↦ ?_)
  rw [List.take_append_of_le_length (Nat.le_of_lt hk)]

theorem mem_withBefore {before : List α} :
    (before, a) ∈ withBefore events ↔ ∃ after, events = before ++ a :: after := by
  rw [withBefore, List.mem_mapIdx]
  constructor
  · rintro ⟨k, hk, heq⟩
    obtain ⟨rfl, rfl⟩ := Prod.mk.inj heq
    exact ⟨events.drop (k + 1), by rw [List.getElem_cons_drop, List.take_append_drop]⟩
  · rintro ⟨after, rfl⟩
    exact ⟨before.length, by simp, by simp⟩

end History

namespace TransitionSystem

variable {σ α : Type*} {T : TransitionSystem σ α} {s s' : σ} {a : α} {events : List α}

/-- A run ends with its last step. -/
theorem exec_concat (h : T.exec s (events ++ [a]) = some s') :
    ∃ t, T.exec s events = some t ∧ T.step t a = some s' := by
  rw [exec, List.foldlM_append] at h
  obtain ⟨t, ht, hstep⟩ := Option.bind_eq_some_iff.1 h
  refine ⟨t, ht, ?_⟩
  rw [List.foldlM_cons] at hstep
  obtain ⟨s'', hs'', hend⟩ := Option.bind_eq_some_iff.1 hstep
  cases hend
  exact hs''

/-- **The induction rule for runs with their events.** -/
theorem exec_invariant {I : List α → σ → Prop} (hinit : I [] T.init)
    (hstep : ∀ events s a s', I events s → T.step s a = some s' → I (events ++ [a]) s')
    (h : T.exec T.init events = some s) : I events s := by
  induction events using List.reverseRecOn generalizing s with
  | nil =>
    cases h
    exact hinit
  | append_singleton events a ih =>
    obtain ⟨t, ht, hs⟩ := exec_concat h
    exact hstep events t a s (ih ht) hs

end TransitionSystem
