import Mathlib.Data.List.Basic
import Mathlib.Data.List.Pairwise

/-!
# Lists of ranges in increasing order

A list whose entries carry a range `lo b .. hi b`, the ranges being non-empty, disjoint and in
increasing order. A number then lies in at most one of them, and a scan from the left meets the
entries in three groups: those that end before the number, the one that holds it, and those that
begin after it (`Increasing.split`).
-/

variable {β : Type*} {lo hi : β → ℕ} {l : List β} {n : ℕ}

/-- `n` lies in the range of `b`. -/
def InRange (lo hi : β → ℕ) (b : β) (n : ℕ) : Prop :=
  lo b ≤ n ∧ n ≤ hi b

instance (b : β) : Decidable (InRange lo hi b n) :=
  inferInstanceAs (Decidable (_ ∧ _))

/-- The ranges of the list are non-empty, disjoint and in increasing order. -/
structure Increasing (lo hi : β → ℕ) (l : List β) : Prop where
  /-- No range is empty. -/
  lo_le_hi : ∀ b ∈ l, lo b ≤ hi b
  /-- Every range ends before the later ones begin. -/
  pairwise : l.Pairwise fun a b ↦ hi a < lo b

instance : Decidable (Increasing lo hi l) :=
  decidable_of_iff ((∀ b ∈ l, lo b ≤ hi b) ∧ l.Pairwise fun a b ↦ hi a < lo b)
    ⟨fun h ↦ ⟨h.1, h.2⟩, fun h ↦ ⟨h.1, h.2⟩⟩

namespace Increasing

theorem tail {b : β} (h : Increasing lo hi (b :: l)) : Increasing lo hi l :=
  ⟨fun c hc ↦ h.lo_le_hi c (List.mem_cons_of_mem _ hc), h.pairwise.of_cons⟩

/-- Around an entry, the ranges before it end before any number of its range, and those after it
begin after. -/
theorem around (l₁ : List β) {l₂ : List β} {b : β} (h : Increasing lo hi (l₁ ++ b :: l₂))
    (hb : InRange lo hi b n) : (∀ c ∈ l₁, hi c < n) ∧ ∀ c ∈ l₂, n < lo c := by
  have hp := List.pairwise_append.1 h.pairwise
  constructor
  · intro c hc
    exact Nat.lt_of_lt_of_le (hp.2.2 c hc b List.mem_cons_self) hb.1
  · intro c hc
    exact Nat.lt_of_le_of_lt hb.2 ((List.pairwise_cons.1 hp.2.1).1 c hc)

/-- **The three groups of a scan.** The entry that holds `n` splits the list into the ranges below
`n` and the ranges above it. -/
theorem split {b : β} (h : Increasing lo hi l) (hmem : b ∈ l) (hb : InRange lo hi b n) :
    ∃ l₁ l₂, l = l₁ ++ b :: l₂ ∧ (∀ c ∈ l₁, hi c < n) ∧ ∀ c ∈ l₂, n < lo c := by
  obtain ⟨l₁, l₂, rfl⟩ := List.append_of_mem hmem
  exact ⟨l₁, l₂, rfl, h.around l₁ hb⟩

/-- The list splits in one way only around an entry that holds `n`. -/
theorem split_unique {l₁ l₂ k₁ k₂ : List β} {b c : β} (h : Increasing lo hi (l₁ ++ b :: l₂))
    (heq : l₁ ++ b :: l₂ = k₁ ++ c :: k₂) (hb : InRange lo hi b n) (hc : InRange lo hi c n) :
    l₁ = k₁ ∧ b = c ∧ l₂ = k₂ := by
  induction l₁ generalizing k₁ with
  | nil =>
    cases k₁ with
    | nil =>
      cases heq
      exact ⟨rfl, rfl, rfl⟩
    | cons d k₁ =>
      cases heq
      exact absurd hb.2 (Nat.not_le.2 ((h.around (b :: k₁) hc).1 b List.mem_cons_self))
  | cons a l₁ ih =>
    cases k₁ with
    | nil =>
      cases heq
      exact absurd hc.2 (Nat.not_le.2 ((h.around (c :: l₁) hb).1 c List.mem_cons_self))
    | cons d k₁ =>
      rw [List.cons_append, List.cons_append, List.cons.injEq] at heq
      obtain ⟨rfl, hrest⟩ := heq
      obtain ⟨rfl, rfl, rfl⟩ := ih h.tail hrest
      exact ⟨rfl, rfl, rfl⟩

/-- At most one entry holds `n`. -/
theorem unique {b c : β} (h : Increasing lo hi l) (hb : b ∈ l) (hc : c ∈ l)
    (hbn : InRange lo hi b n) (hcn : InRange lo hi c n) : b = c := by
  obtain ⟨l₁, l₂, rfl, hbelow, habove⟩ := h.split hb hbn
  rcases List.mem_append.1 hc with hc | hc
  · exact absurd hcn.2 (Nat.not_le.2 (hbelow c hc))
  · rcases List.mem_cons.1 hc with rfl | hc
    · rfl
    · exact absurd hcn.1 (Nat.not_le.2 (habove c hc))

end Increasing
