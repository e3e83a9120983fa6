import Mathlib.Data.List.Basic

/-!
# Runs of a fallible step over a list

A step handles one element of a list, changes a state, and may fail; `runSteps` handles the elements
in order and stops at the first failure. `AlongSteps step P` says of a run that `P` holds of every
element that is handled and the state before it.

What a step does to an observation of the state gives what a run does to it (`AlongSteps.observe`),
and a run whose elements fail by themselves ends or fails whatever their order
(`AlongSteps.runSteps_isOk_iff`).

The first section has the rules for a single computation that may fail: what succeeds has succeeded
part by part.
-/

namespace FallibleRun

/-! ### Sequences -/

section Sequences

universe u v

variable {ε : Type v} {α β : Type u} {x : Except ε α} {b : β}

theorem ok_bind (a : α) (k : α → Except ε β) : (.ok a >>= k) = k a := rfl

/-- **The bind rule.** What succeeds has succeeded step by step. -/
theorem bind_eq_ok {k : α → Except ε β} : (x >>= k) = .ok b ↔ ∃ a, x = .ok a ∧ k a = .ok b := by
  cases x with
  | error e => exact ⟨fun h ↦ (by cases h), fun ⟨a, ha, _⟩ ↦ (by cases ha)⟩
  | ok a => exact ⟨fun h ↦ ⟨a, rfl, h⟩, fun ⟨a', ha', h⟩ ↦ Except.ok.inj ha' ▸ h⟩

theorem map_eq_ok {f : α → β} (h : x.map f = .ok b) : ∃ a, x = .ok a ∧ f a = b := by
  cases x with
  | error e => cases h
  | ok a => exact ⟨a, rfl, Except.ok.inj h⟩

theorem exists_map_eq_ok {f : α → β} : (∃ b, x.map f = .ok b) ↔ ∃ a, x = .ok a := by
  cases x <;> simp [Except.map]

end Sequences

/-! ### Runs -/

variable {ε α σ β : Type*} (step : α → σ → Except ε σ)

/-- The state after the elements of a list. -/
def runSteps : List α → σ → Except ε σ
  | [], s => .ok s
  | e :: es, s => step e s >>= runSteps es

/-- At every element that is handled, a condition on it and the state before it. -/
def AlongSteps (P : α → σ → Prop) : List α → σ → Prop
  | [], _ => True
  | e :: es, s => P e s ∧ ∀ s', step e s = .ok s' → AlongSteps P es s'

/-- A run can be followed. -/
instance (P : α → σ → Prop) [∀ e s, Decidable (P e s)] :
    ∀ es s, Decidable (AlongSteps step P es s)
  | [], _ => isTrue trivial
  | e :: es, s =>
    match hs : step e s with
    | .error _ => decidable_of_iff (P e s) ⟨fun h ↦ ⟨h, fun s' hs' ↦ by simp [hs] at hs'⟩, And.left⟩
    | .ok t =>
      have := instDecidableAlongSteps P es t
      decidable_of_iff (P e s ∧ AlongSteps step P es t)
        ⟨fun h ↦ ⟨h.1, fun s' hs' ↦ Except.ok.inj (hs.symm.trans hs') ▸ h.2⟩,
          fun h ↦ ⟨h.1, h.2 t hs⟩⟩

variable {step} {P Q : α → σ → Prop} {e : α} {es : List α} {s s' : σ}

theorem runSteps_cons_eq_ok (h : runSteps step (e :: es) s = .ok s') :
    ∃ t, step e s = .ok t ∧ runSteps step es t = .ok s' := by
  rw [runSteps] at h
  exact bind_eq_ok.1 h

theorem runSteps_cons_of_ok {t : σ} (h : step e s = .ok t) :
    runSteps step (e :: es) s = runSteps step es t := by
  rw [runSteps, h]
  rfl

/-- **The step rule.** -/
theorem AlongSteps.imp (h : AlongSteps step P es s) (hstep : ∀ e s, P e s → Q e s) :
    AlongSteps step Q es s := by
  induction es generalizing s with
  | nil => trivial
  | cons e es ih => exact ⟨hstep e s h.1, fun s' hs' ↦ ih (h.2 s' hs')⟩

/-- **The invariant rule.** What every step preserves is preserved by a run. -/
theorem runSteps_invariant {I : σ → Prop} (hstep : ∀ e s s', I s → step e s = .ok s' → I s')
    (hinit : I s) (hrun : runSteps step es s = .ok s') : I s' := by
  induction es generalizing s with
  | nil =>
    cases hrun
    exact hinit
  | cons e es ih =>
    obtain ⟨t, ht, hrest⟩ := runSteps_cons_eq_ok hrun
    exact ih (hstep e s t hinit ht) hrest

/-- **The run rule.** What every step does to an observation of the state is done by a run to it,
step by step. -/
theorem AlongSteps.observe (h : AlongSteps step P es s) (obs : σ → β) {update : β → α → β}
    (hstep : ∀ e s s', P e s → step e s = .ok s' → obs s' = update (obs s) e)
    (hrun : runSteps step es s = .ok s') : obs s' = es.foldl update (obs s) := by
  induction es generalizing s with
  | nil =>
    cases hrun
    rfl
  | cons e es ih =>
    obtain ⟨t, ht, hrest⟩ := runSteps_cons_eq_ok hrun
    rw [List.foldl_cons, ← hstep e s t h.1 ht]
    exact ih (h.2 t ht) hrest

/-- A run ends if no element fails by itself. -/
theorem AlongSteps.runSteps_isOk_iff {L : α → Prop} (h : AlongSteps step P es s)
    (hstep : ∀ e s, P e s → ((∃ s', step e s = .ok s') ↔ L e)) :
    (∃ s', runSteps step es s = .ok s') ↔ ∀ e ∈ es, L e := by
  induction es generalizing s with
  | nil => simp [runSteps]
  | cons e es ih =>
    rw [List.forall_mem_cons]
    constructor
    · rintro ⟨s', hs'⟩
      obtain ⟨t, ht, hrest⟩ := runSteps_cons_eq_ok hs'
      exact ⟨(hstep e s h.1).1 ⟨t, ht⟩, (ih (h.2 t ht)).1 ⟨s', hrest⟩⟩
    · rintro ⟨hl, hls⟩
      obtain ⟨t, ht⟩ := (hstep e s h.1).2 hl
      obtain ⟨s', hs'⟩ := (ih (h.2 t ht)).2 hls
      exact ⟨s', by rw [runSteps_cons_of_ok ht, hs']⟩

end FallibleRun
