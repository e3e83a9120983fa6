import Mathlib.Data.Set.Function
import Mathlib.Data.List.Basic
import Mathlib.Algebra.BigOperators.Group.List.Basic
import Mathlib.Data.Int.Cast.Lemmas
import Mathlib.Tactic.Ring

/-!
# Consecutive numberings

A set of items is *numbered* by `f` up to `n` when `f` maps it one-to-one onto `1 .. n`. Numbers
that are accumulated over blocks (a block of `m` items, then the next block) are built from three
combinators, and each says exactly which offset the next block starts from:

* `Numbers.append`: a block after a block;
* `Numbers.repeated`: `k` equally long blocks in a row, the block index being the leading digit of a
  mixed-radix number;
* `Numbers.list`: one block for each entry of a list, offset by the sizes of the entries before it.

None of them asks for the blocks to be disjoint: the offsets already keep the numbers apart, so an
item of two blocks would have two numbers. Numbers are integers and sizes are naturals, so that an
offset computed by subtraction needs no side condition.
-/

variable {α β : Type*}

/-- `f` maps `S` one-to-one onto `1 .. n`. -/
def Numbers (f : α → ℤ) (S : Set α) (n : ℕ) : Prop :=
  Set.BijOn f S {k : ℤ | 1 ≤ k ∧ k ≤ n}

namespace Numbers

variable {f g h : α → ℤ} {S T : Set α} {m n : ℕ}

theorem one_le (hf : Numbers f S n) {x : α} (hx : x ∈ S) : 1 ≤ f x :=
  (hf.mapsTo hx).1

theorem le (hf : Numbers f S n) {x : α} (hx : x ∈ S) : f x ≤ n :=
  (hf.mapsTo hx).2

theorem eq_of_eq (hf : Numbers f S n) {x y : α} (hx : x ∈ S) (hy : y ∈ S) (h : f x = f y) :
    x = y :=
  hf.injOn hx hy h

theorem exists_eq (hf : Numbers f S n) {k : ℤ} (hk : 1 ≤ k) (hkn : k ≤ n) : ∃ x ∈ S, f x = k :=
  hf.surjOn ⟨hk, hkn⟩

theorem intro (hmaps : ∀ x ∈ S, 1 ≤ f x ∧ f x ≤ n)
    (hinj : ∀ x ∈ S, ∀ y ∈ S, f x = f y → x = y)
    (hsurj : ∀ k : ℤ, 1 ≤ k → k ≤ n → ∃ x ∈ S, f x = k) : Numbers f S n :=
  ⟨fun x hx ↦ hmaps x hx, fun x hx y hy ↦ hinj x hx y hy, fun k hk ↦ hsurj k hk.1 hk.2⟩

/-- No item, no number. -/
theorem empty : Numbers f ∅ 0 :=
  intro (by simp) (by simp) (by omega)

/-- **A block after a block.** The second block's numbers start where the first one's end. -/
theorem append (hf : Numbers f S m) (hg : Numbers g T n) (hS : ∀ x ∈ S, h x = f x)
    (hT : ∀ x ∈ T, h x = m + g x) : Numbers h (S ∪ T) (m + n) := by
  refine intro ?_ ?_ ?_
  · rintro x (hx | hx)
    · have h1 := hf.one_le hx
      have h2 := hf.le hx
      rw [hS x hx]
      omega
    · have h1 := hg.one_le hx
      have h2 := hg.le hx
      rw [hT x hx]
      omega
  · rintro x (hx | hx) y (hy | hy) hxy
    · rw [hS x hx, hS y hy] at hxy
      exact hf.eq_of_eq hx hy hxy
    · have h1 := hf.le hx
      have h2 := hg.one_le hy
      rw [hS x hx, hT y hy] at hxy
      omega
    · have h1 := hg.one_le hx
      have h2 := hf.le hy
      rw [hT x hx, hS y hy] at hxy
      omega
    · rw [hT x hx, hT y hy] at hxy
      exact hg.eq_of_eq hx hy (by omega)
  · intro k hk hkn
    by_cases hkm : k ≤ m
    · obtain ⟨x, hx, hfx⟩ := hf.exists_eq hk hkm
      exact ⟨x, Or.inl hx, by rw [hS x hx, hfx]⟩
    · obtain ⟨x, hx, hgx⟩ := hg.exists_eq (k := k - m) (by omega) (by omega)
      exact ⟨x, Or.inr hx, by rw [hT x hx, hgx]; omega⟩

/-- **Equally long blocks in a row.** Block `q` starts after `q * m` numbers. -/
theorem repeated {B : ℕ → Set α} {f : ℕ → α → ℤ} {k : ℕ}
    (hf : ∀ q < k, Numbers (f q) (B q) m) (hh : ∀ q < k, ∀ x ∈ B q, h x = q * m + f q x) :
    Numbers h {x | ∃ q < k, x ∈ B q} (k * m) := by
  induction k with
  | zero => simpa using empty (f := h)
  | succ k ih =>
    have hprev := ih (fun q hq ↦ hf q (by omega)) fun q hq ↦ hh q (by omega)
    have hset : {x | ∃ q < k + 1, x ∈ B q} = {x | ∃ q < k, x ∈ B q} ∪ B k := by
      ext x
      simp only [Set.mem_ofPred_eq, Set.mem_union, Nat.lt_succ_iff_lt_or_eq]
      constructor
      · rintro ⟨q, hq | rfl, hx⟩
        · exact Or.inl ⟨q, hq, hx⟩
        · exact Or.inr hx
      · rintro (⟨q, hq, hx⟩ | hx)
        · exact ⟨q, Or.inl hq, hx⟩
        · exact ⟨k, Or.inr rfl, hx⟩
    rw [hset, Nat.succ_mul]
    refine append hprev (hf k (by omega)) (fun _ _ ↦ rfl) fun x hx ↦ ?_
    rw [hh k (by omega) x hx, Nat.cast_mul]

/-- **One block for each entry of a list.** The block of an entry starts after the sizes of the
entries before it. -/
theorem list {B : β → Set α} {f : β → α → ℤ} {size : β → ℕ} :
    ∀ {l : List β} {h : α → ℤ}, (∀ b ∈ l, Numbers (f b) (B b) (size b)) →
      (∀ l₁ b l₂, l = l₁ ++ b :: l₂ → ∀ x ∈ B b, h x = (l₁.map size).sum + f b x) →
      Numbers h {x | ∃ b ∈ l, x ∈ B b} (l.map size).sum
  | [], h, _, _ => by simpa using empty (f := h)
  | b :: l, h, hf, hh => by
    have hhead : ∀ x ∈ B b, h x = f b x := fun x hx ↦ by
      simpa using hh [] b l rfl x hx
    have htail : ∀ l₁ c l₂, l = l₁ ++ c :: l₂ → ∀ x ∈ B c,
        h x - size b = (l₁.map size).sum + f c x := fun l₁ c l₂ hl x hx ↦ by
      have := hh (b :: l₁) c l₂ (by rw [hl]; rfl) x hx
      rw [List.map_cons, List.sum_cons] at this
      omega
    have hrest := list (h := fun x ↦ h x - size b) (fun c hc ↦ hf c (List.mem_cons_of_mem _ hc))
      htail
    have hset : {x | ∃ c ∈ b :: l, x ∈ B c} = B b ∪ {x | ∃ c ∈ l, x ∈ B c} := by
      ext x
      simp
    rw [hset, List.map_cons, List.sum_cons]
    exact append (hf b List.mem_cons_self) hrest hhead fun x _ ↦ by omega

/-- Items that carry an index `1 .. n` are numbered by it. -/
theorem ofIndex {e : ℕ → α} (hf : ∀ s, f (e s) = s) :
    Numbers f {x | ∃ s, (1 ≤ s ∧ s ≤ n) ∧ e s = x} n := by
  refine intro ?_ ?_ ?_
  · rintro x ⟨s, hs, rfl⟩
    rw [hf]
    omega
  · rintro x ⟨s, -, rfl⟩ y ⟨t, -, rfl⟩ hst
    rw [hf, hf] at hst
    rw [Nat.cast_injective hst]
  · intro k hk hkn
    obtain ⟨s, rfl⟩ := Int.eq_ofNat_of_zero_le (show 0 ≤ k by omega)
    exact ⟨e s, ⟨s, by omega, rfl⟩, hf s⟩

/-- Items that are matched one-to-one with numbered items are numbered by the matching item's
number. -/
theorem comp {e : α → β} {U : Set β} {f : β → ℤ} (hf : Numbers f U n) (he : Set.BijOn e S U) :
    Numbers (fun x ↦ f (e x)) S n :=
  Set.BijOn.comp hf he

/-- Entries `lo .. hi` with one block each, of equal length. -/
theorem range {lo hi : ℕ} (key : α → ℕ) {P : α → Prop} {f : α → ℤ}
    (hf : ∀ k, lo ≤ k → k ≤ hi → Numbers f {x | key x = k ∧ P x} m)
    (hh : ∀ x, P x → h x = ((key x : ℤ) - lo) * m + f x) :
    Numbers h {x | (lo ≤ key x ∧ key x ≤ hi) ∧ P x} ((hi + 1 - lo) * m) := by
  have hset : {x | (lo ≤ key x ∧ key x ≤ hi) ∧ P x} =
      {x | ∃ q < hi + 1 - lo, x ∈ {x | key x = lo + q ∧ P x}} := by
    ext x
    simp only [Set.mem_ofPred_eq]
    constructor
    · rintro ⟨hk, hx⟩
      exact ⟨key x - lo, by omega, by omega, hx⟩
    · rintro ⟨q, hq, hk, hx⟩
      exact ⟨by omega, hx⟩
  rw [hset]
  refine repeated (f := fun _ ↦ f) (fun q hq ↦ hf (lo + q) (by omega) (by omega)) ?_
  rintro q - x ⟨hk, hx⟩
  rw [hh x hx, show (key x : ℤ) - lo = q by omega]

end Numbers
