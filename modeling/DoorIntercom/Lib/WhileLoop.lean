import Mathlib.Data.List.Basic

/-!
# Loops with a measure

A `while` loop whose body may fail. A turn gives the next state, or `none` where the condition of
the loop does not hold; every turn decreases a measure, so the loop ends or fails.
-/

/-- A loop, with what makes it end. -/
structure WhileLoop (ε σ : Type*) where
  /-- One turn, if the condition holds. -/
  turn : σ → Except ε (Option σ)
  /-- What every turn decreases. -/
  measure : σ → ℕ
  decreasing : ∀ s s', turn s = .ok (some s') → measure s' < measure s

namespace WhileLoop

variable {ε σ : Type*} (loop : WhileLoop ε σ)

/-- The state after the loop. -/
def run (s : σ) : Except ε σ :=
  match _ : loop.turn s with
  | .error e => .error e
  | .ok none => .ok s
  | .ok (some s') => run s'
termination_by loop.measure s
decreasing_by exact loop.decreasing s s' ‹_›

variable {loop} {s s' : σ}

theorem run_of_error {e : ε} (h : loop.turn s = .error e) : loop.run s = .error e := by
  rw [run]
  split
  next e' h' =>
    cases h.symm.trans h'
    rfl
  next h' => cases h.symm.trans h'
  next t h' => cases h.symm.trans h'

theorem run_of_none (h : loop.turn s = .ok none) : loop.run s = .ok s := by
  rw [run]
  split
  next e h' => cases h.symm.trans h'
  next h' => rfl
  next t h' => cases h.symm.trans h'

theorem run_of_some (h : loop.turn s = .ok (some s')) : loop.run s = loop.run s' := by
  rw [run]
  split
  next e h' => cases h.symm.trans h'
  next h' => cases h.symm.trans h'
  next t h' =>
    cases h.symm.trans h'
    rfl

/-- **The invariant rule.** What every turn preserves holds after the loop. -/
theorem run_invariant {I : σ → Prop}
    (hturn : ∀ s s', I s → loop.turn s = .ok (some s') → I s') (hinit : I s)
    (hrun : loop.run s = .ok s') : I s' := by
  induction hn : loop.measure s using Nat.strongRecOn generalizing s with
  | ind n ih =>
    cases h : loop.turn s with
    | error e =>
      rw [run_of_error h] at hrun
      cases hrun
    | ok next =>
      cases next with
      | none =>
        rw [run_of_none h] at hrun
        cases hrun
        exact hinit
      | some t =>
        rw [run_of_some h] at hrun
        exact ih _ (hn ▸ loop.decreasing s t h) (hturn s t hinit h) hrun rfl

end WhileLoop
