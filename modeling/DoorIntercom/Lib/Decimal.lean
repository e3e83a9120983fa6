import Mathlib.Algebra.Group.Nat.Defs
import Mathlib.Data.Int.Notation
import Mathlib.Data.List.Basic

/-!
# Numbers in decimal

What a program prints for a number, as a list of characters, and how printed numbers are told apart
when they stand between separators. The digits are those of `Nat.toDigits 10`, whose value is
`Nat.ofDigitChars 10`; an integer has a minus sign in front if it is negative.
-/

namespace Decimal

/-- The digits of a number are digits. -/
theorem isDigit_of_mem {n : ℕ} {c : Char} (h : c ∈ Nat.toDigits 10 n) : c.isDigit :=
  Nat.isDigit_of_mem_toDigits (by decide) (by decide) h

/-- What is no digit does not stand among the digits. -/
theorem not_mem_toDigits {n : ℕ} {c : Char} (h : c.isDigit = false) : c ∉ Nat.toDigits 10 n :=
  fun hc ↦ Bool.false_ne_true (h.symm.trans (isDigit_of_mem hc))

theorem toDigits_injective : Function.Injective (Nat.toDigits 10) := by
  intro m n h
  have hvalue := congrArg (Nat.ofDigitChars 10 · 0) h
  simpa using hvalue

/-- A number below `10 ^ k` has at most `k` digits. -/
theorem length_toDigits_le {n k : ℕ} (hk : 0 < k) (h : n < 10 ^ k) :
    (Nat.toDigits 10 n).length ≤ k :=
  (Nat.length_toDigits_le_iff (by decide) hk).2 h

/-! ### Integers -/

/-- An integer in decimal. -/
def ofInt : ℤ → List Char
  | .ofNat n => Nat.toDigits 10 n
  | .negSucc n => '-' :: Nat.toDigits 10 (n + 1)

/-! ### Texts in front of a separator -/

/-- **A text in front of a separator** that does not stand in it is determined by the whole. -/
theorem eq_of_append_cons {α : Type*} {sep : α} {text text' rest rest' : List α}
    (h : sep ∉ text) (h' : sep ∉ text') (heq : text ++ sep :: rest = text' ++ sep :: rest') :
    text = text' ∧ rest = rest' := by
  induction text generalizing text' with
  | nil =>
    cases text' with
    | nil => exact ⟨rfl, (List.cons.inj heq).2⟩
    | cons a text' => exact absurd ((List.cons.inj heq).1 ▸ List.mem_cons_self) h'
  | cons a text ih =>
    cases text' with
    | nil => exact absurd ((List.cons.inj heq).1 ▸ List.mem_cons_self) h
    | cons b text' =>
      obtain ⟨rfl, htail⟩ := List.cons.inj heq
      obtain ⟨rfl, hrest⟩ := ih (List.not_mem_of_not_mem_cons h)
        (List.not_mem_of_not_mem_cons h') htail
      exact ⟨rfl, hrest⟩

end Decimal
