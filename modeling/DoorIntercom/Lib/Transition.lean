import Mathlib.Data.List.Basic

/-!
# Labelled transition systems

A system is an initial state and a partial step function: `step s a` is the state after the event
`a` in state `s`, and `none` when `a` cannot happen there. The only nondeterminism is the choice of
the next event, so a run is a list of events, and a run on given events can be evaluated.

`ReachIf ok` collects the states that are reached by steps that all meet a condition `ok` on the
state before the step and its event. Results about such runs follow from what one step preserves
(`ReachIf.invariant`).
-/

/-- A transition system with states `σ` and events `α`. -/
structure TransitionSystem (σ α : Type*) where
  init : σ
  step : σ → α → Option σ

namespace TransitionSystem

variable {σ α : Type*} (T : TransitionSystem σ α)

/-- The states that are reached by steps that meet `ok`. -/
inductive ReachIf (ok : σ → α → Prop) : σ → Prop
  | init : ReachIf ok T.init
  | step {s s' : σ} {a : α} : ReachIf ok s → ok s a → T.step s a = some s' → ReachIf ok s'

/-- The reachable states. -/
def Reach (s : σ) : Prop := T.ReachIf (fun _ _ ↦ True) s

/-- No event can happen. -/
def Final (s : σ) : Prop := ∀ a, T.step s a = none

/-- The state after a list of events. -/
def exec (s : σ) (events : List α) : Option σ := events.foldlM T.step s

variable {T} {ok ok' : σ → α → Prop} {s s' : σ}

/-- **The induction rule.** What holds initially and is preserved by every step that meets the
condition holds of every state reached. -/
theorem ReachIf.invariant {I : σ → Prop} (h : T.ReachIf ok s) (hinit : I T.init)
    (hstep : ∀ s a s', I s → ok s a → T.step s a = some s' → I s') : I s := by
  induction h with
  | init => exact hinit
  | step _ hok hs ih => exact hstep _ _ _ ih hok hs

theorem ReachIf.mono (h : T.ReachIf ok s) (hok : ∀ s a, ok s a → ok' s a) : T.ReachIf ok' s := by
  induction h with
  | init => exact .init
  | step _ ha hs ih => exact .step ih (hok _ _ ha) hs

theorem ReachIf.reach (h : T.ReachIf ok s) : T.Reach s :=
  h.mono fun _ _ _ ↦ trivial

theorem Reach.invariant {I : σ → Prop} (h : T.Reach s) (hinit : I T.init)
    (hstep : ∀ s a s', I s → T.step s a = some s' → I s') : I s :=
  ReachIf.invariant h hinit fun s a s' hs _ ↦ hstep s a s' hs

theorem Reach.step {a : α} (h : T.Reach s) (hs : T.step s a = some s') : T.Reach s' :=
  ReachIf.step h trivial hs

@[simp] theorem exec_cons (a : α) (events : List α) :
    T.exec s (a :: events) = (T.step s a).bind fun s' ↦ T.exec s' events := rfl

/-- A run leads from reachable states to reachable ones. -/
theorem Reach.exec {events : List α} (h : T.Reach s) (hs : T.exec s events = some s') :
    T.Reach s' := by
  induction events generalizing s with
  | nil =>
    cases hs
    exact h
  | cons a events ih =>
    rw [exec_cons] at hs
    obtain ⟨t, hst, ht⟩ := Option.bind_eq_some_iff.1 hs
    exact ih (h.step hst) ht

/-- A run of events that meet the condition in every state. -/
theorem ReachIf.exec (h : T.ReachIf ok s) (events : List α) (hok : ∀ s, ∀ a ∈ events, ok s a)
    (hs : T.exec s events = some s') : T.ReachIf ok s' := by
  induction events generalizing s with
  | nil =>
    cases hs
    exact h
  | cons a events ih =>
    rw [exec_cons] at hs
    obtain ⟨t, hst, ht⟩ := Option.bind_eq_some_iff.1 hs
    exact ih (h.step (hok s a List.mem_cons_self) hst)
      (fun s b hb ↦ hok s b (List.mem_cons_of_mem a hb)) ht

/-- The same event happens some number of times: either never, or once and then again. -/
theorem exists_exec_replicate_iff {p : σ → Prop} {a : α} :
    (∃ n s', T.exec s (List.replicate n a) = some s' ∧ p s') ↔
      p s ∨ ∃ t, T.step s a = some t ∧
        ∃ n s', T.exec t (List.replicate n a) = some s' ∧ p s' := by
  constructor
  · rintro ⟨n, s', hexec, hp⟩
    cases n with
    | zero =>
      cases hexec
      exact Or.inl hp
    | succ n =>
      rw [List.replicate_succ, exec_cons] at hexec
      obtain ⟨t, ht, hexec⟩ := Option.bind_eq_some_iff.1 hexec
      exact Or.inr ⟨t, ht, n, s', hexec, hp⟩
  · rintro (hp | ⟨t, ht, n, s', hexec, hp⟩)
    · exact ⟨0, s, rfl, hp⟩
    · refine ⟨n + 1, s', ?_, hp⟩
      rw [List.replicate_succ, exec_cons, ht]
      exact hexec

/-- **The simulation rule.** If the other system can follow every step that meets the condition, by
any number of steps, then what is reached is related to what the other one reaches. -/
theorem ReachIf.simulated {τ β : Type*} {T' : TransitionSystem τ β} {R : σ → τ → Prop}
    (h : T.ReachIf ok s) (hinit : R T.init T'.init)
    (hstep : ∀ s t a s', R s t → ok s a → T.step s a = some s' →
      ∃ events t', T'.exec t events = some t' ∧ R s' t') :
    ∃ t, T'.Reach t ∧ R s t := by
  induction h with
  | init => exact ⟨T'.init, .init, hinit⟩
  | step _ ha hs ih =>
    obtain ⟨t, ht, hR⟩ := ih
    obtain ⟨events, t', hexec, hR'⟩ := hstep _ t _ _ hR ha hs
    exact ⟨t', ht.exec hexec, hR'⟩

/-- **The ranking rule.** An invariant with a rank, kept by every step and with a smaller rank by
those that are counted, bounds how often these occur in a run of events that meet a condition. -/
theorem countP_le_of_rank_of_forall {I : ℕ → σ → Prop} {p : α → Bool} {q : α → Prop}
    {events : List α} {n : ℕ}
    (hkeep : ∀ n s a s', I n s → q a → p a = false → T.step s a = some s' → I n s')
    (hless : ∀ n s a s', I n s → q a → p a = true → T.step s a = some s' → ∃ m < n, I m s')
    (h : I n s) (hq : ∀ a ∈ events, q a) (hs : T.exec s events = some s') :
    events.countP p ≤ n := by
  induction events generalizing s n with
  | nil => exact Nat.zero_le n
  | cons a events ih =>
    rw [exec_cons] at hs
    obtain ⟨t, hst, ht⟩ := Option.bind_eq_some_iff.1 hs
    obtain ⟨ha, hevents⟩ := List.forall_mem_cons.1 hq
    cases hp : p a with
    | false =>
      rw [List.countP_cons_of_neg (by simp [hp])]
      exact ih (hkeep n s a t h ha hp hst) hevents ht
    | true =>
      obtain ⟨m, hm, hI⟩ := hless n s a t h ha hp hst
      rw [List.countP_cons_of_pos hp]
      exact Nat.lt_of_le_of_lt (ih hI hevents ht) hm

/-- The ranking rule for all runs. -/
theorem countP_le_of_rank {I : ℕ → σ → Prop} {p : α → Bool} {events : List α} {n : ℕ}
    (hkeep : ∀ n s a s', I n s → p a = false → T.step s a = some s' → I n s')
    (hless : ∀ n s a s', I n s → p a = true → T.step s a = some s' → ∃ m < n, I m s')
    (h : I n s) (hs : T.exec s events = some s') : events.countP p ≤ n :=
  countP_le_of_rank_of_forall (q := fun _ ↦ True) (fun n s a s' hI _ ↦ hkeep n s a s' hI)
    (fun n s a s' hI _ ↦ hless n s a s' hI) h (fun _ _ ↦ trivial) hs

end TransitionSystem
