import DoorIntercom.Lib.FallibleRun
import Mathlib.Algebra.Ring.Int.Defs
import Mathlib.Algebra.Ring.Nat
import Mathlib.Data.List.Basic
import Mathlib.Data.List.Nodup

/-!
# Java arrays

Arrays as lists, with the operations that fail: a new array of a negative size, and an index outside
an array. Positions are natural numbers; a negative position of the source is outside any array, and
so is one of `2 ^ 31` or more.

A loop of assignments `dest[i] = src[j]` is the list of its pairs `(i, j)` in order (`assign`). What
it leaves at a position is what the last pair for it says (`getElem?_assign`).
-/

namespace JavaArray

open FallibleRun

universe u

variable {α β : Type*}

/-- What the operations throw. -/
inductive Thrown
  | indexOutOfBounds
  | negativeArraySize
  deriving DecidableEq, Repr

/-! ### Sizes -/

/-- The value of an expression in `int` arithmetic. -/
def int (z : ℤ) : ℤ := z.bmod (2 ^ 32)

theorem int_eq_self {z : ℤ} (hle : -2 ^ 31 ≤ z) (hlt : z < 2 ^ 31) : int z = z :=
  Int.bmod_eq_of_le (by omega) (by omega)

theorem int_of_lt {n : ℕ} (h : n < 2 ^ 31) : int n = n := int_eq_self (by omega) (by omega)

/-- A size of `2 ^ 31` or more becomes negative, and up to `2 ^ 32 + 2 ^ 31` it wraps once. -/
theorem int_of_le {n : ℕ} (h : 2 ^ 31 ≤ n) (h' : n < 2 ^ 32 + 2 ^ 31) : int n = n - 2 ^ 32 := by
  have hsub : int n = ((n : ℤ) - 2 ^ 32).bmod (2 ^ 32) := by
    rw [int]
    exact (Int.sub_bmod_right (n : ℤ) (2 ^ 32)).symm
  rw [hsub]
  exact int_eq_self (by omega) (by omega)

theorem int_lt (z : ℤ) : int z < 2 ^ 31 := by
  have hlt := Int.bmod_lt (x := z) (show 0 < 2 ^ 32 by decide)
  rw [int]
  omega

/-- The value of an expression in `long` arithmetic. -/
def long (z : ℤ) : ℤ := z.bmod (2 ^ 64)

theorem long_eq_self {z : ℤ} (hle : -2 ^ 63 ≤ z) (hlt : z < 2 ^ 63) : long z = z :=
  Int.bmod_eq_of_le (by omega) (by omega)

/-- Half of a size that is no `int`, unless it is `2 ^ 32 - 1`, is negative. -/
theorem int_tdiv_two_neg {n : ℕ} (h : 2 ^ 31 ≤ n) (h' : n < 2 ^ 32 - 1) : (int n).tdiv 2 < 0 := by
  rw [int_of_le h (by omega), ← Int.neg_sub, Int.neg_tdiv,
    Int.tdiv_eq_ediv_of_nonneg (by omega)]
  omega

theorem int_tdiv_two {n : ℕ} (h : n < 2 ^ 31) : (int n).tdiv 2 = (n / 2 : ℕ) := by
  rw [int_of_lt h, Int.tdiv_eq_ediv_of_nonneg (by omega)]
  omega

/-- A new array, with the default value everywhere. -/
def new (zero : α) (size : ℤ) : Except Thrown (List α) :=
  if size < 0 then .error .negativeArraySize else .ok (List.replicate size.toNat zero)

theorem new_natCast (zero : α) (n : ℕ) : new zero (n : ℤ) = .ok (List.replicate n zero) := by
  rw [new, if_neg (by omega), Int.toNat_natCast]

theorem new_of_neg (zero : α) {size : ℤ} (h : size < 0) :
    new zero size = .error .negativeArraySize := if_pos h

theorem length_of_new {zero : α} {size : ℤ} {a : List α} (h : new zero size = .ok a) :
    (a.length : ℤ) = size := by
  rw [new] at h
  split_ifs at h with hneg
  rw [← Except.ok.inj h, List.length_replicate]
  omega

/-! ### Elements -/

/-- `a[i]`. -/
def get (a : List α) (i : ℕ) : Except Thrown α :=
  match a[i]? with
  | some x => .ok x
  | none => .error .indexOutOfBounds

/-- `a[i] = x`. -/
def put (a : List α) (i : ℕ) (x : α) : Except Thrown (List α) :=
  if i < a.length then .ok (a.set i x) else .error .indexOutOfBounds

theorem get_eq_ok {a : List α} {i : ℕ} {x : α} : get a i = .ok x ↔ a[i]? = some x := by
  rw [get]
  rcases a[i]? with _ | y
  · simp
  · simp

theorem get_of_lt {a : List α} {i : ℕ} (h : i < a.length) : get a i = .ok a[i] :=
  get_eq_ok.2 (List.getElem?_eq_getElem h)

theorem get_of_le {a : List α} {i : ℕ} (h : a.length ≤ i) : get a i = .error .indexOutOfBounds := by
  rw [get, List.getElem?_eq_none h]

theorem length_of_put {a b : List α} {i : ℕ} {x : α} (h : put a i x = .ok b) :
    b.length = a.length := by
  rw [put] at h
  split_ifs at h with hlt
  rw [← Except.ok.inj h, List.length_set]

theorem put_of_lt {a : List α} {i : ℕ} {x : α} (h : i < a.length) : put a i x = .ok (a.set i x) :=
  if_pos h

/-- A loop that puts something at every index needs an array that is long enough. -/
theorem length_of_foldlM_put {f : ℕ → α} {a b : List α} {n : ℕ}
    (h : (List.range n).foldlM (fun a i ↦ put a i (f i)) a = .ok b) :
    n ≤ a.length ∧ b.length = a.length := by
  induction n generalizing b with
  | zero => exact ⟨Nat.zero_le _, by rw [← Except.ok.inj h]⟩
  | succ n ih =>
    rw [List.range_succ, List.foldlM_append] at h
    obtain ⟨c, hrun, h⟩ := bind_eq_ok.1 h
    obtain ⟨d, hput, h⟩ := bind_eq_ok.1 h
    replace hput : put c n (f n) = .ok d := hput
    obtain ⟨-, hlen⟩ := ih hrun
    rw [← Except.ok.inj h, length_of_put hput]
    rw [put] at hput
    split_ifs at hput with hlt
    exact ⟨by omega, hlen⟩

/-! ### Copies -/

/-- `System.arraycopy`. -/
def arraycopy (src : List α) (srcPos : ℕ) (dest : List α) (destPos length : ℕ) :
    Except Thrown (List α) :=
  if srcPos + length ≤ src.length ∧ destPos + length ≤ dest.length then
    .ok (dest.take destPos ++ (src.drop srcPos).take length ++ dest.drop (destPos + length))
  else .error .indexOutOfBounds

theorem arraycopy_eq {src dest : List α} {srcPos destPos length : ℕ}
    (hsrc : srcPos + length ≤ src.length) (hdest : destPos + length ≤ dest.length) :
    arraycopy src srcPos dest destPos length =
      .ok (dest.take destPos ++ (src.drop srcPos).take length ++ dest.drop (destPos + length)) :=
  if_pos ⟨hsrc, hdest⟩

theorem arraycopy_eq_ok {src dest r : List α} {srcPos destPos length : ℕ}
    (h : arraycopy src srcPos dest destPos length = .ok r) :
    srcPos + length ≤ src.length ∧ destPos + length ≤ dest.length := by
  by_contra hno
  rw [arraycopy, if_neg hno] at h
  cases h

/-- **What a copy leaves.** -/
theorem getElem?_arraycopy {src dest r : List α} {srcPos destPos length : ℕ}
    (h : arraycopy src srcPos dest destPos length = .ok r) (i : ℕ) :
    r[i]? = if destPos ≤ i ∧ i < destPos + length then src[srcPos + (i - destPos)]?
      else dest[i]? := by
  obtain ⟨hsrc, hdest⟩ := arraycopy_eq_ok h
  rw [arraycopy_eq hsrc hdest] at h
  obtain rfl := Except.ok.inj h
  have htake : (dest.take destPos).length = destPos := by
    rw [List.length_take]
    omega
  have hcopy : ((src.drop srcPos).take length).length = length := by
    rw [List.length_take, List.length_drop]
    omega
  by_cases hlt : i < destPos
  · rw [if_neg (by omega), List.append_assoc, List.getElem?_append_left (by omega),
      List.getElem?_take_of_lt hlt]
  · rw [List.append_assoc, List.getElem?_append_right (by omega), htake]
    by_cases hin : i < destPos + length
    · rw [if_pos ⟨by omega, hin⟩, List.getElem?_append_left (by omega),
        List.getElem?_take_of_lt (by omega), List.getElem?_drop]
    · rw [if_neg (by omega), List.getElem?_append_right (by omega), hcopy, List.getElem?_drop]
      congr 1
      omega

/-- A copy of a whole array behind the first elements. -/
theorem arraycopy_append (src a : List α) {b : List α} (h : src.length ≤ b.length) :
    arraycopy src 0 (a ++ b) a.length src.length = .ok (a ++ src ++ b.drop src.length) := by
  rw [arraycopy_eq (by omega) (by rw [List.length_append]; omega), List.take_left, List.drop_zero,
    List.take_length, ← List.drop_drop, List.drop_left]

/-- Two arrays copied one behind the other into an array of the right size. -/
theorem arraycopy_arraycopy {α : Type u} {a b zeros : List α}
    (h : zeros.length = a.length + b.length) :
    (do
      let r ← arraycopy a 0 zeros 0 a.length
      arraycopy b 0 r a.length b.length) = .ok (a ++ b) := by
  have hfirst := arraycopy_append a [] (show a.length ≤ zeros.length by omega)
  have hdrop : (zeros.drop a.length).length = b.length := by
    rw [List.length_drop]
    omega
  have hsecond := arraycopy_append b a (Nat.le_of_eq hdrop.symm)
  rw [List.drop_eq_nil_of_le (Nat.le_of_eq hdrop), List.append_nil] at hsecond
  exact bind_eq_ok.2 ⟨_, hfirst, hsecond⟩

theorem length_arraycopy {src dest r : List α} {srcPos destPos length : ℕ}
    (h : arraycopy src srcPos dest destPos length = .ok r) : r.length = dest.length := by
  obtain ⟨hsrc, hdest⟩ := arraycopy_eq_ok h
  rw [arraycopy_eq hsrc hdest] at h
  obtain rfl := Except.ok.inj h
  simp only [List.length_append, List.length_take, List.length_drop]
  omega

/-! ### Loops of assignments -/

/-- The assignments `dest[i] = src[j]` for the pairs `(i, j)` in order. -/
def assign (src : List α) (moves : List (ℕ × ℕ)) (dest : List α) : Except Thrown (List α) :=
  moves.foldlM (fun dest move ↦ do put dest move.1 (← get src move.2)) dest

/-- The source position of the last assignment to a position. -/
def lastSource : List (ℕ × ℕ) → ℕ → Option ℕ
  | [], _ => none
  | move :: moves, i => (lastSource moves i).or (if move.1 = i then some move.2 else none)

section Assign

variable {src dest r : List α} {move : ℕ × ℕ} {moves moves' : List (ℕ × ℕ)} {i j : ℕ}

@[simp] theorem assign_nil : assign src [] dest = .ok dest := rfl

theorem assign_cons_of_lt (hdest : move.1 < dest.length) (hsrc : move.2 < src.length) :
    assign src (move :: moves) dest = assign src moves (dest.set move.1 src[move.2]) := by
  rw [assign, List.foldlM_cons, get_of_lt hsrc]
  show (put dest move.1 src[move.2] >>= fun dest ↦ assign src moves dest) = _
  rw [put_of_lt hdest]
  rfl

theorem assign_cons_eq_ok (h : assign src (move :: moves) dest = .ok r) :
    move.1 < dest.length ∧ move.2 < src.length := by
  rw [assign, List.foldlM_cons] at h
  by_cases hsrc : move.2 < src.length
  · refine ⟨?_, hsrc⟩
    by_contra hdest
    have hput : put dest move.1 src[move.2] = .error .indexOutOfBounds := if_neg hdest
    rw [get_of_lt hsrc] at h
    change (put dest move.1 src[move.2] >>= fun dest ↦ assign src moves dest) = _ at h
    rw [hput] at h
    cases h
  · rw [get_of_le (Nat.not_lt.1 hsrc)] at h
    cases h

/-- **A loop ends** if and only if no position is outside its array. -/
theorem assign_isOk_iff : (∃ r, assign src moves dest = .ok r) ↔
    ∀ move ∈ moves, move.1 < dest.length ∧ move.2 < src.length := by
  induction moves generalizing dest with
  | nil => simp
  | cons move moves ih =>
    rw [List.forall_mem_cons]
    constructor
    · rintro ⟨r, hr⟩
      obtain ⟨hdest, hsrc⟩ := assign_cons_eq_ok hr
      rw [assign_cons_of_lt hdest hsrc] at hr
      have hrest := ih.1 ⟨r, hr⟩
      rw [List.length_set] at hrest
      exact ⟨⟨hdest, hsrc⟩, hrest⟩
    · rintro ⟨⟨hdest, hsrc⟩, hrest⟩
      rw [assign_cons_of_lt hdest hsrc]
      apply ih.2
      rw [List.length_set]
      exact hrest

theorem length_assign (h : assign src moves dest = .ok r) : r.length = dest.length := by
  induction moves generalizing dest with
  | nil => rw [← Except.ok.inj h]
  | cons move moves ih =>
    obtain ⟨hdest, hsrc⟩ := assign_cons_eq_ok h
    rw [assign_cons_of_lt hdest hsrc] at h
    rw [ih h, List.length_set]

/-- **What a loop leaves** at a position: what its last assignment says. -/
theorem getElem?_assign (h : assign src moves dest = .ok r) (i : ℕ) :
    r[i]? = (lastSource moves i).elim dest[i]? (src[·]?) := by
  induction moves generalizing dest with
  | nil => rw [← Except.ok.inj h, lastSource, Option.elim_none]
  | cons move moves ih =>
    obtain ⟨hdest, hsrc⟩ := assign_cons_eq_ok h
    rw [assign_cons_of_lt hdest hsrc] at h
    rw [ih h, lastSource]
    cases lastSource moves i with
    | some j => rfl
    | none =>
      rw [Option.none_or, Option.elim_none]
      by_cases hi : move.1 = i
      · rw [if_pos hi, Option.elim_some, ← hi, List.getElem?_set_self hdest,
          List.getElem?_eq_getElem hsrc]
      · rw [if_neg hi, Option.elim_none, List.getElem?_set_ne hi]

theorem lastSource_eq_none (h : ∀ move ∈ moves, move.1 ≠ i) : lastSource moves i = none := by
  induction moves with
  | nil => rfl
  | cons move moves ih =>
    rw [List.forall_mem_cons] at h
    rw [lastSource, ih h.2, if_neg h.1, Option.none_or]

/-- If all assignments to a position agree, that is what it gets. -/
theorem lastSource_eq_some (hmem : (i, j) ∈ moves) (h : ∀ move ∈ moves, move.1 = i → move.2 = j) :
    lastSource moves i = some j := by
  induction moves with
  | nil => cases hmem
  | cons move moves ih =>
    rw [List.forall_mem_cons] at h
    rw [lastSource]
    by_cases hrest : (i, j) ∈ moves
    · rw [ih hrest h.2, Option.some_or]
    · obtain rfl : (i, j) = move := (List.mem_cons.1 hmem).resolve_right hrest
      have hnone : lastSource moves i = none := by
        apply lastSource_eq_none
        intro move hmove hi
        exact hrest (by rw [← hi, ← h.2 move hmove hi]; exact hmove)
      rw [hnone, Option.none_or, if_pos rfl]

/-- The assignments of a loop over `l`. -/
theorem lastSource_map_eq_none {ι : Type*} {l : List ι} {dest' src' : ι → ℕ}
    (h : ∀ a ∈ l, dest' a ≠ i) : lastSource (l.map fun a ↦ (dest' a, src' a)) i = none := by
  apply lastSource_eq_none
  intro move hmove
  obtain ⟨a, ha, rfl⟩ := List.mem_map.1 hmove
  exact h a ha

theorem lastSource_map_eq_some {ι : Type*} {l : List ι} {dest' src' : ι → ℕ} {a : ι} (ha : a ∈ l)
    (hdest : dest' a = i) (h : ∀ b ∈ l, dest' b = i → src' b = src' a) :
    lastSource (l.map fun a ↦ (dest' a, src' a)) i = some (src' a) := by
  apply lastSource_eq_some (List.mem_map.2 ⟨a, ha, by rw [hdest]⟩)
  intro move hmove hi
  obtain ⟨b, hb, rfl⟩ := List.mem_map.1 hmove
  exact h b hb hi

theorem exists_assign_map {ι : Type*} {l : List ι} {dest' src' : ι → ℕ}
    (h : ∀ a ∈ l, dest' a < dest.length ∧ src' a < src.length) :
    ∃ r, assign src (l.map fun a ↦ (dest' a, src' a)) dest = .ok r := by
  apply assign_isOk_iff.2
  intro move hmove
  obtain ⟨a, ha, rfl⟩ := List.mem_map.1 hmove
  exact h a ha

/-- If no position is assigned twice, every assignment is the last one. -/
theorem lastSource_of_nodup (hnodup : (moves.map Prod.fst).Nodup) (hmem : (i, j) ∈ moves) :
    lastSource moves i = some j := by
  apply lastSource_eq_some hmem
  intro move hmove hi
  have heq : move = (i, j) := List.inj_on_of_nodup_map hnodup hmove hmem hi
  rw [heq]

end Assign

/-! ### The iterations of nested loops -/

/-- The positions of the iterations of two nested loops, if the inner one has `n` of them. -/
theorem getElem?_flatMap {f : α → List β} {l : List α} {n : ℕ} (hf : ∀ a ∈ l, (f a).length = n)
    (i : ℕ) {k : ℕ} (hk : k < n) :
    (l.flatMap f)[i * n + k]? = (l[i]?).bind fun a ↦ (f a)[k]? := by
  induction l generalizing i with
  | nil => simp
  | cons a l ih =>
    rw [List.forall_mem_cons] at hf
    rw [List.flatMap_cons]
    cases i with
    | zero =>
      have hlt : 0 * n + k < (f a).length := by
        rw [hf.1]
        omega
      rw [List.getElem?_append_left hlt, Nat.zero_mul, Nat.zero_add]
      rfl
    | succ i =>
      have hle : (f a).length ≤ (i + 1) * n + k := by
        rw [hf.1, Nat.succ_mul]
        omega
      have hsub : (i + 1) * n + k - (f a).length = i * n + k := by
        rw [hf.1, Nat.succ_mul]
        omega
      rw [List.getElem?_append_right hle, hsub, ih hf.2]
      rfl

/-- The number of iterations of two nested loops. -/
theorem length_flatMap {f : α → List β} {l : List α} {n : ℕ} (hf : ∀ a ∈ l, (f a).length = n) :
    (l.flatMap f).length = l.length * n := by
  induction l with
  | nil => simp
  | cons a l ih =>
    rw [List.forall_mem_cons] at hf
    rw [List.flatMap_cons, List.length_append, hf.1, ih hf.2, List.length_cons, Nat.succ_mul,
      Nat.add_comm]

end JavaArray
