import Mathlib.Algebra.BigOperators.Group.List.Basic
import Mathlib.Algebra.Order.Ring.Int

/-!
# Signed integers with overflow

An expression of a signed type of `w` bits, evaluated with overflow: it has a value only if every
sum, difference and product on the way is a value of the type. So that an expression has a value
says that **all** its intermediate results fit.

Two things are said of such an expression. `Approximates x a`: if `x` has a value, it is the exact
number `a`. `Counts x a`: moreover, `x` has a value exactly if `a` fits. The second one is kept by
sums and products of what only counts upwards, where no intermediate result exceeds the last one.
-/

/-- The value of an expression of a signed type of `w` bits, if nothing overflows. -/
structure CheckedInt (w : ℕ) where
  value? : Option ℤ
  deriving DecidableEq, Repr

namespace CheckedInt

variable {w : ℕ}

/-- The number is a value of the type. -/
def Fits (w : ℕ) (n : ℤ) : Prop := -2 ^ (w - 1) ≤ n ∧ n < 2 ^ (w - 1)

instance (n : ℤ) : Decidable (Fits w n) := inferInstanceAs (Decidable (_ ∧ _))

/-- A result of an operation. -/
def ofInt (n : ℤ) : CheckedInt w := ⟨if Fits w n then some n else none⟩

/-- An operation on two values. -/
def map₂ (f : ℤ → ℤ → ℤ) (x y : CheckedInt w) : CheckedInt w :=
  ⟨x.value?.bind fun a ↦ y.value?.bind fun b ↦ (ofInt (w := w) (f a b)).value?⟩

instance : Add (CheckedInt w) := ⟨map₂ (· + ·)⟩

instance : Sub (CheckedInt w) := ⟨map₂ (· - ·)⟩

instance : Mul (CheckedInt w) := ⟨map₂ (· * ·)⟩

instance (n : ℕ) : OfNat (CheckedInt w) n := ⟨ofInt n⟩

/-! ### Values -/

section Value

variable {x y : CheckedInt w} {a b : ℤ}

theorem value?_ofInt (h : Fits w a) : (ofInt a : CheckedInt w).value? = some a := if_pos h

theorem value?_ofInt_of_not_fits (h : ¬ Fits w a) : (ofInt a : CheckedInt w).value? = none :=
  if_neg h

theorem value?_map₂ (f : ℤ → ℤ → ℤ) (hx : x.value? = some a) (hy : y.value? = some b) :
    (map₂ f x y).value? = (ofInt (f a b) : CheckedInt w).value? := by
  rw [map₂, hx, hy]
  rfl

theorem value?_map₂_of_none (f : ℤ → ℤ → ℤ) (h : x.value? = none ∨ y.value? = none) :
    (map₂ f x y).value? = none := by
  rw [map₂]
  rcases h with hx | hy
  · rw [hx]
    rfl
  · rw [hy]
    cases x.value? <;> rfl

theorem value?_add (hx : x.value? = some a) (hy : y.value? = some b) (h : Fits w (a + b)) :
    (x + y).value? = some (a + b) :=
  (value?_map₂ (· + ·) hx hy).trans (value?_ofInt h)

theorem value?_sub (hx : x.value? = some a) (hy : y.value? = some b) (h : Fits w (a - b)) :
    (x - y).value? = some (a - b) :=
  (value?_map₂ (· - ·) hx hy).trans (value?_ofInt h)

theorem value?_mul (hx : x.value? = some a) (hy : y.value? = some b) (h : Fits w (a * b)) :
    (x * y).value? = some (a * b) :=
  (value?_map₂ (· * ·) hx hy).trans (value?_ofInt h)

theorem value?_add_of_none (h : x.value? = none ∨ y.value? = none) : (x + y).value? = none :=
  value?_map₂_of_none (· + ·) h

theorem value?_mul_of_none (h : x.value? = none ∨ y.value? = none) : (x * y).value? = none :=
  value?_map₂_of_none (· * ·) h

/-- A sum has a value if its parts do and it fits. -/
theorem isSome_add_iff (hy : y.value? = some b) :
    (x + y).value?.isSome ↔ ∃ a, x.value? = some a ∧ Fits w (a + b) := by
  cases hx : x.value? with
  | none =>
    rw [value?_add_of_none (Or.inl hx)]
    simp
  | some a =>
    rw [show (x + y).value? = (ofInt (a + b) : CheckedInt w).value? from value?_map₂ _ hx hy]
    by_cases h : Fits w (a + b)
    · rw [value?_ofInt h]
      exact ⟨fun _ ↦ ⟨a, rfl, h⟩, fun _ ↦ rfl⟩
    · rw [value?_ofInt_of_not_fits h]
      simp [h]

end Value

/-! ### Exactness -/

/-- If the expression has a value, it is the exact number. -/
def Approximates (x : CheckedInt w) (a : ℤ) : Prop := ∀ b ∈ x.value?, b = a

namespace Approximates

variable {x y : CheckedInt w} {a b : ℤ}

theorem ofInt (a : ℤ) : Approximates (CheckedInt.ofInt a : CheckedInt w) a := by
  intro b hb
  by_cases h : Fits w a
  · rw [value?_ofInt h] at hb
    exact (Option.some.inj hb).symm
  · rw [value?_ofInt_of_not_fits h] at hb
    cases hb

theorem map₂ (hx : Approximates x a) (hy : Approximates y b) (f : ℤ → ℤ → ℤ) :
    Approximates (CheckedInt.map₂ f x y) (f a b) := by
  intro n hn
  cases hxv : x.value? with
  | none =>
    rw [value?_map₂_of_none f (Or.inl hxv)] at hn
    cases hn
  | some a' =>
    cases hyv : y.value? with
    | none =>
      rw [value?_map₂_of_none f (Or.inr hyv)] at hn
      cases hn
    | some b' =>
      rw [value?_map₂ f hxv hyv] at hn
      rw [ofInt _ n hn, hx a' hxv, hy b' hyv]

theorem add (hx : Approximates x a) (hy : Approximates y b) : Approximates (x + y) (a + b) :=
  hx.map₂ hy (· + ·)

theorem sub (hx : Approximates x a) (hy : Approximates y b) : Approximates (x - y) (a - b) :=
  hx.map₂ hy (· - ·)

theorem mul (hx : Approximates x a) (hy : Approximates y b) : Approximates (x * y) (a * b) :=
  hx.map₂ hy (· * ·)

/-- **Sums in a loop** are exact. -/
theorem foldl {β : Type*} {f : β → CheckedInt w} {g : β → ℤ} (l : List β)
    (hf : ∀ b ∈ l, Approximates (f b) (g b)) (hx : Approximates x a) :
    Approximates (l.foldl (fun x b ↦ x + f b) x) (l.foldl (fun a b ↦ a + g b) a) := by
  induction l generalizing x a with
  | nil => exact hx
  | cons b l ih =>
    rw [List.forall_mem_cons] at hf
    exact ih hf.2 (hx.add hf.1)

end Approximates

/-! ### Counting -/

/-- The expression counts a number of things: it has a value exactly if the number fits. -/
structure Counts (x : CheckedInt w) (a : ℤ) : Prop where
  nonneg : 0 ≤ a
  value? : x.value? = if a < 2 ^ (w - 1) then some a else none

namespace Counts

variable {x y : CheckedInt w} {a b : ℤ}

theorem fits_iff (h : 0 ≤ a) : Fits w a ↔ a < 2 ^ (w - 1) := by
  have hpos : (0 : ℤ) < 2 ^ (w - 1) := pow_pos two_pos _
  exact ⟨And.right, fun hlt ↦ ⟨by omega, hlt⟩⟩

theorem of_lt (h : Counts x a) (hlt : a < 2 ^ (w - 1)) : x.value? = some a := by
  rw [h.value?, if_pos hlt]

theorem of_le (h : Counts x a) (hle : 2 ^ (w - 1) ≤ a) : x.value? = none := by
  rw [h.value?, if_neg (not_lt.2 hle)]

theorem isSome_iff (h : Counts x a) : x.value?.isSome ↔ a < 2 ^ (w - 1) := by
  rw [h.value?]
  split_ifs with hlt <;> simp [hlt]

theorem ofInt (h : 0 ≤ a) : Counts (CheckedInt.ofInt a : CheckedInt w) a :=
  ⟨h, if_congr (fits_iff h) rfl rfl⟩

theorem add (hx : Counts x a) (hy : Counts y b) : Counts (x + y) (a + b) := by
  have hnonneg : 0 ≤ a + b := Int.add_nonneg hx.nonneg hy.nonneg
  have ha := hx.nonneg
  have hb := hy.nonneg
  refine ⟨hnonneg, ?_⟩
  by_cases hxlt : a < 2 ^ (w - 1)
  · by_cases hylt : b < 2 ^ (w - 1)
    · exact (value?_map₂ (· + ·) (hx.of_lt hxlt) (hy.of_lt hylt)).trans (ofInt hnonneg).value?
    · rw [if_neg (by omega)]
      exact value?_add_of_none (Or.inr (hy.of_le (not_lt.1 hylt)))
  · rw [if_neg (by omega)]
    exact value?_add_of_none (Or.inl (hx.of_le (not_lt.1 hxlt)))

/-- A multiple, where the factor has a value; if the factor may be 0, so must the other number. -/
theorem mul (hx : x.value? = some a) (ha : 0 ≤ a) (hy : Counts y b)
    (h : 0 < a ∨ b < 2 ^ (w - 1)) : Counts (x * y) (a * b) := by
  have hb := hy.nonneg
  have hnonneg : 0 ≤ a * b := mul_nonneg ha hb
  refine ⟨hnonneg, ?_⟩
  by_cases hylt : b < 2 ^ (w - 1)
  · exact (value?_map₂ (· * ·) hx (hy.of_lt hylt)).trans (ofInt hnonneg).value?
  · have hpos : 0 < a := h.resolve_right hylt
    have hle : b ≤ a * b := le_mul_of_one_le_left hb hpos
    rw [if_neg (by omega)]
    exact value?_mul_of_none (Or.inr (hy.of_le (not_lt.1 hylt)))

/-- **Counting in a loop.** -/
theorem foldl {β : Type*} {f : β → CheckedInt w} {g : β → ℤ} (l : List β)
    (hf : ∀ b ∈ l, Counts (f b) (g b)) (hx : Counts x a) :
    Counts (l.foldl (fun x b ↦ x + f b) x) (a + (l.map g).sum) := by
  induction l generalizing x a with
  | nil => simpa using hx
  | cons b l ih =>
    rw [List.forall_mem_cons] at hf
    rw [List.map_cons, List.sum_cons, ← add_assoc]
    exact ih hf.2 (hx.add hf.1)

end Counts

end CheckedInt
