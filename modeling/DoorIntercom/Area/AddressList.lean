import DoorIntercom.Area.IpOctets
import Mathlib.Tactic.IntervalCases

/-!
# Listing the addresses of the targets

`roomIdGetIP` asks for the address of the first target and lists those of the others by counting on
from it. Its loop adds the loop counter to a last octet that it has itself been incrementing, so it
carries into the third octet too early, unless the block ends there by chance.

The position of a machine number `n` in the plan of a net item is `x = n + netStart[3]`, as for
`calculationIP`; the address at position `y + 1` follows from the one at `y` in the loop's way
exactly under a condition on `y` and the counter (`nextAddress_iff`), and that condition holds up to
a number that can be computed from `x` (`forall_follows_iff`).
-/

namespace DoorIntercom

/-- Writing past the 50 entries of `ipList`. -/
inductive AddressFault
  | ipList
  deriving DecidableEq, Repr

/-- The body of the loop. -/
def nextAddress (i : ℕ) (ipAddress : IpAddress) : IpAddress :=
  if ((ipAddress 3).toNat + i) / 255 ≠ 0 then
    ![ipAddress 0, ipAddress 1, ipAddress 2 + 1#8,
      BitVec.ofNat 8 (((ipAddress 3).toNat + i) % 255 + 1)]
  else ![ipAddress 0, ipAddress 1, ipAddress 2, ipAddress 3 + if i = 0 then 0#8 else 1#8]

/-- The loop from its `i`-th iteration on, with `k` iterations to come: the addresses it lists. -/
def listAddresses : ℕ → ℕ → IpAddress → Except AddressFault (List IpAddress)
  | 0, _, _ => .ok []
  | k + 1, i, ipAddress =>
    if i < 50 then do
      let ipList ← listAddresses k (i + 1) (nextAddress i ipAddress)
      return nextAddress i ipAddress :: ipList
    else .error .ipList

/-- The loop lists the addresses of the numbers from `n` on. -/
def ListAgrees (area : Area) (ipid : Word) (n : Word) (objectNum : ℕ) (info : MachineIPInfo) :
    Prop :=
  ∃ ipList, listAddresses objectNum 0 (calculationIP (some area) n ipid info).2.ipAddress =
      .ok ipList ∧
    ∀ i < objectNum, ipList[i]? =
      some (calculationIP (some area) (n + BitVec.ofNat 32 i) ipid info).2.ipAddress

/-- The number of addresses that the loop lists rightly, from position `x` on. -/
def listLimit (x : ℕ) : ℕ :=
  if x < 254 then (255 - x) / 2 + 1
  else if x = 254 then 128
  else if rawOctet x = 0 ∨ rawOctet x = 255 then 1
  else if x = 254 * 255 + 252 then 4
  else min ((255 - rawOctet x) / 2) (254 - x % 255) + 1

/-! ### One iteration -/

/-- The address at a position of the plan. -/
def AtPosition (item : NetItem) (y : ℕ) (ipAddress : IpAddress) : Prop :=
  ipAddress 0 = item.netStart 0 ∧ ipAddress 1 = item.netStart 1 ∧
    (ipAddress 2).toNat = (item.netStart 2).toNat + y / 255 ∧
    (ipAddress 3).toNat = lastOctet y

/-- The address at position `y + 1` is the one that the `i`-th iteration makes of the one at `y`:
either nothing is carried and `y` is neither the last position of its block nor one whose octet 0 or
255 was replaced, or something is carried, `y` is the last position, and the octets agree. -/
def Follows (y i : ℕ) : Prop :=
  (lastOctet y + i < 255 ∧ y % 255 ≠ 254 ∧ ¬ (255 ≤ y ∧ (rawOctet y = 0 ∨ rawOctet y = 255))) ∨
    (255 ≤ lastOctet y + i ∧ y % 255 = 254 ∧ lastOctet (y + 1) = (lastOctet y + i) % 255 + 1)

instance (y i : ℕ) : Decidable (Follows y i) :=
  inferInstanceAs (Decidable (_ ∨ _))

section Step

variable {item : NetItem} {y i : ℕ} {ipAddress : IpAddress}

theorem rawOctet_lt (y : ℕ) : rawOctet y < 256 := by
  rw [rawOctet]
  split_ifs with hq
  · omega
  · exact Nat.mod_lt _ (by decide)

theorem lastOctet_bounds (y : ℕ) : 1 ≤ lastOctet y ∧ lastOctet y ≤ 254 := by
  have hlt := rawOctet_lt y
  rw [lastOctet]
  split_ifs with hmod
  · exact ⟨le_refl _, by decide⟩
  · omega

theorem AtPosition.unique {ipAddress' : IpAddress} (h : AtPosition item y ipAddress)
    (h' : AtPosition item y ipAddress') : ipAddress = ipAddress' := by
  obtain ⟨h0, h1, h2, h3⟩ := h
  obtain ⟨h0', h1', h2', h3'⟩ := h'
  funext j
  match j with
  | 0 => rw [h0, h0']
  | 1 => rw [h1, h1']
  | 2 => exact BitVec.eq_of_toNat_eq (h2.trans h2'.symm)
  | 3 => exact BitVec.eq_of_toNat_eq (h3.trans h3'.symm)

/-- Inside a block the octet is incremented, before 0 and 255 are replaced. -/
theorem rawOctet_succ (hmod : y % 255 ≠ 254) :
    rawOctet (y + 1) = if y < 255 then y + 1 else (rawOctet y + 1) % 256 := by
  have hq : (y + 1) / 255 = y / 255 := by omega
  have hr : (y + 1) % 255 = y % 255 + 1 := by omega
  have hblock : y / 255 = 0 ↔ y < 255 := by omega
  rw [rawOctet, rawOctet, hq, hr, if_congr hblock rfl rfl, if_congr hblock rfl rfl]
  split_ifs
  · rfl
  · omega

/-- Inside a block the last octet is incremented, unless it was replaced. -/
theorem lastOctet_succ_iff (hy : 0 < y) (hmod : y % 255 ≠ 254) (hlt : lastOctet y < 254) :
    lastOctet (y + 1) = lastOctet y + 1 ↔
      ¬ (255 ≤ y ∧ (rawOctet y = 0 ∨ rawOctet y = 255)) := by
  have hraw := rawOctet_lt y
  have hsucc := rawOctet_succ hmod
  by_cases hblock : y < 255
  · have hy' : rawOctet y = y := by rw [rawOctet, if_pos (by omega)]
    rw [if_pos hblock] at hsucc
    have hoctet : lastOctet y = y := by rw [lastOctet, hy', if_neg (by omega)]
    have hoctet' : lastOctet (y + 1) = y + 1 := by rw [lastOctet, hsucc, if_neg (by omega)]
    rw [hoctet, hoctet']
    exact iff_of_true rfl fun h ↦ absurd hblock (Nat.not_lt.2 h.1)
  · rw [if_neg hblock] at hsucc
    by_cases hreplaced : rawOctet y = 0 ∨ rawOctet y = 255
    · have hoctet : lastOctet y = 1 := by rw [lastOctet, if_pos (by omega)]
      have hoctet' : lastOctet (y + 1) = 1 := by
        rw [lastOctet, hsucc]
        rcases hreplaced with h0 | h255
        · rw [h0]
          rfl
        · rw [h255]
          rfl
      rw [hoctet, hoctet']
      exact iff_of_false (by decide) fun h ↦ h ⟨Nat.not_lt.1 hblock, hreplaced⟩
    · have hoctet : lastOctet y = rawOctet y := by rw [lastOctet, if_neg (by omega)]
      have hsucc' : rawOctet (y + 1) = rawOctet y + 1 := by omega
      have hoctet' : lastOctet (y + 1) = rawOctet y + 1 := by
        rw [lastOctet, hsucc', if_neg (by omega)]
      rw [hoctet, hoctet']
      exact iff_of_true rfl fun h ↦ hreplaced h.2

/-- **One iteration** past the first one leads from the address at a position to the next one
exactly if the next position follows. -/
theorem nextAddress_iff (hy : 0 < y) (hi : 0 < i) (h : AtPosition item y ipAddress)
    (hwrap : (y + 1) / 255 + (item.netStart 2).toNat ≤ 255) :
    AtPosition item (y + 1) (nextAddress i ipAddress) ↔ Follows y i := by
  obtain ⟨h0, h1, h2, h3⟩ := h
  obtain ⟨hlo, hhi⟩ := lastOctet_bounds y
  have hdiv : (y + 1) / 255 = y / 255 ↔ y % 255 ≠ 254 := by omega
  rw [nextAddress, h3]
  by_cases hcarry : lastOctet y + i < 255
  · have hzero : ¬ (lastOctet y + i) / 255 ≠ 0 := by omega
    have hoctet : (ipAddress 3 + 1#8).toNat = lastOctet y + 1 := by
      rw [BitVec.toNat_add, h3]
      show (lastOctet y + 1) % 256 = _
      omega
    rw [if_neg hzero, if_neg hi.ne']
    simp only [AtPosition, Matrix.cons_val, h0, h1, h2, hoctet, true_and]
    have hfollows : Follows y i ↔
        y % 255 ≠ 254 ∧ ¬ (255 ≤ y ∧ (rawOctet y = 0 ∨ rawOctet y = 255)) := by
      rw [Follows]
      omega
    rw [hfollows]
    constructor
    · rintro ⟨hthird, hlast⟩
      have hmod : y % 255 ≠ 254 := by omega
      exact ⟨hmod, (lastOctet_succ_iff hy hmod (by omega)).1 hlast.symm⟩
    · rintro ⟨hmod, hraw⟩
      exact ⟨by omega, ((lastOctet_succ_iff hy hmod (by omega)).2 hraw).symm⟩
  · have hone : (lastOctet y + i) / 255 ≠ 0 := by omega
    have hthird : (ipAddress 2 + 1#8).toNat = ((item.netStart 2).toNat + y / 255 + 1) % 256 := by
      rw [BitVec.toNat_add, h2]
      rfl
    have hlast : (BitVec.ofNat 8 ((lastOctet y + i) % 255 + 1)).toNat =
        (lastOctet y + i) % 255 + 1 := by
      rw [BitVec.toNat_ofNat]
      omega
    rw [if_pos hone]
    simp only [AtPosition, Matrix.cons_val, h0, h1, hthird, hlast, true_and]
    rw [Follows]
    omega

/-- The first iteration changes nothing. -/
theorem nextAddress_zero (h : AtPosition item y ipAddress) :
    nextAddress 0 ipAddress = ipAddress := by
  have hhi := (lastOctet_bounds y).2
  have hzero : ¬ ((ipAddress 3).toNat + 0) / 255 ≠ 0 := by
    rw [h.2.2.2]
    omega
  rw [nextAddress, if_neg hzero, if_pos rfl, BitVec.add_zero]
  funext j
  match j with
  | 0 | 1 | 2 | 3 => rfl

end Step

/-! ### The loop -/

/-- `ipAddress` before the `i`-th iteration. -/
def addressBefore (ipAddress : IpAddress) : ℕ → IpAddress
  | 0 => ipAddress
  | i + 1 => nextAddress i (addressBefore ipAddress i)

section Loop

variable {item : NetItem} {x k : ℕ} {ipAddress : IpAddress}

/-- The loop lists what its iterations leave, as long as `ipList` has room. -/
theorem listAddresses_eq (k i : ℕ) : listAddresses k i (addressBefore ipAddress i) =
    if k = 0 ∨ i + k ≤ 50 then
      .ok ((List.range' i k).map fun j ↦ addressBefore ipAddress (j + 1))
    else .error .ipList := by
  induction k generalizing i with
  | zero => rfl
  | succ k ih =>
    have hrest := ih (i + 1)
    rw [addressBefore] at hrest
    rw [listAddresses, hrest]
    by_cases hlt : i < 50
    · rw [if_pos hlt]
      by_cases hroom : k = 0 ∨ i + 1 + k ≤ 50
      · rw [if_pos hroom, if_pos (by omega)]
        rfl
      · rw [if_neg hroom, if_neg (by omega)]
        rfl
    · rw [if_neg hlt, if_neg (by omega)]

/-- The `i`-th iteration, from the address that the ones before it leave. -/
theorem atPosition_nextAddress_iff (hx : 0 < x) {i : ℕ}
    (h : AtPosition item (x + (i - 1)) ipAddress)
    (hwrap : (x + i) / 255 + (item.netStart 2).toNat ≤ 255) :
    AtPosition item (x + i) (nextAddress i ipAddress) ↔ (1 ≤ i → Follows (x + (i - 1)) i) := by
  cases i with
  | zero =>
    rw [nextAddress_zero h]
    exact iff_of_true h fun h01 ↦ absurd h01 (by decide)
  | succ j =>
    rw [Nat.add_sub_cancel] at h ⊢
    have hiff := nextAddress_iff (by omega : 0 < x + j) (Nat.succ_pos j) h hwrap
    exact hiff.trans ⟨fun hf _ ↦ hf, fun hf ↦ hf (Nat.succ_pos j)⟩

/-- **A run of the loop** leaves the addresses at the positions from `x` on exactly if every
position follows in the loop's way. -/
theorem forall_atPosition_iff (hx : 0 < x) (h : AtPosition item x ipAddress)
    (hwrap : ∀ i < k, (x + i) / 255 + (item.netStart 2).toNat ≤ 255) :
    (∀ i < k, AtPosition item (x + i) (addressBefore ipAddress (i + 1))) ↔
      ∀ i < k, 1 ≤ i → Follows (x + (i - 1)) i := by
  induction k with
  | zero => simp
  | succ k ih =>
    simp only [Nat.forall_lt_succ_right]
    have ih := ih fun i hi ↦ hwrap i (Nat.lt_succ_of_lt hi)
    rw [ih]
    refine and_congr_right fun hfollows ↦ atPosition_nextAddress_iff hx ?_ (hwrap k (by omega))
    cases k with
    | zero => exact h
    | succ j => exact ih.2 hfollows j (Nat.lt_succ_self j)

end Loop

/-! ### How far the positions follow -/

section Limit

variable {x i : ℕ}

theorem rawOctet_of_lt (hx : x < 255) : rawOctet x = x := by
  rw [rawOctet, if_pos (by omega)]

theorem lastOctet_of_replaced (h : rawOctet x = 0 ∨ rawOctet x = 255) : lastOctet x = 1 := by
  rw [lastOctet, if_pos (by omega)]

theorem lastOctet_of_not_replaced (h : ¬ (rawOctet x = 0 ∨ rawOctet x = 255)) :
    lastOctet x = rawOctet x := by
  have hlt := rawOctet_lt x
  rw [lastOctet, if_neg (by omega)]

/-- Past the first block, the octets of a block are counted on modulo 256. -/
theorem rawOctet_add {d : ℕ} (hx : 255 ≤ x) (hd : x % 255 + d ≤ 254) :
    rawOctet (x + d) = (rawOctet x + d) % 256 := by
  have hq : (x + d) / 255 = x / 255 := by omega
  have hr : (x + d) % 255 = x % 255 + d := by omega
  rw [rawOctet, rawOctet, hq, hr, if_neg (by omega), if_neg (by omega)]
  omega

/-- A position follows without a carry. -/
theorem follows_of_lt (hlt : lastOctet x + i < 255) (hmod : x % 255 ≠ 254)
    (hraw : x < 255 ∨ ¬ (rawOctet x = 0 ∨ rawOctet x = 255)) : Follows x i :=
  Or.inl ⟨hlt, hmod, fun h ↦ hraw.elim (fun hx ↦ by omega) fun hraw ↦ hraw h.2⟩

/-- Up to the limit, the positions follow. -/
theorem follows_of_lt_limit (hx : 0 < x) (hi : 1 ≤ i) (hlt : i < listLimit x) :
    Follows (x + (i - 1)) i := by
  have hraw := rawOctet_lt x
  rw [listLimit] at hlt
  split_ifs at hlt with hblock h254 hreplaced hlast
  · -- in the first block the octets are the positions
    have hoctet := rawOctet_of_lt (by omega : x + (i - 1) < 255)
    have hnot : ¬ (rawOctet (x + (i - 1)) = 0 ∨ rawOctet (x + (i - 1)) = 255) := by omega
    exact follows_of_lt (by rw [lastOctet_of_not_replaced hnot]; omega) (by omega)
      (Or.inl (by omega))
  · -- from the last position of the first block, the loop carries rightly
    subst h254
    rcases Nat.eq_or_lt_of_le hi with rfl | hi
    · decide
    · obtain ⟨d, rfl⟩ := Nat.exists_eq_add_of_le hi
      have hy : 254 + (1 + 1 + d - 1) = 255 + d := by omega
      have hoctet : rawOctet (255 + d) = 1 + d := by
        rw [rawOctet_add (le_refl _) (by omega)]
        show (1 + d) % 256 = _
        omega
      have hnot : ¬ (rawOctet (255 + d) = 0 ∨ rawOctet (255 + d) = 255) := by omega
      rw [hy]
      exact follows_of_lt (by rw [lastOctet_of_not_replaced hnot]; omega) (by omega) (Or.inr hnot)
  · omega
  · subst hlast
    interval_cases i <;> decide
  · have hoctet : rawOctet (x + (i - 1)) = rawOctet x + (i - 1) := by
      rw [rawOctet_add (by omega) (by omega)]
      omega
    have hnot : ¬ (rawOctet (x + (i - 1)) = 0 ∨ rawOctet (x + (i - 1)) = 255) := by omega
    exact follows_of_lt (by rw [lastOctet_of_not_replaced hnot]; omega) (by omega) (Or.inr hnot)

/-- Where a position ends its block, the next block does not begin with the octet that the carry
gives, which is 1 or 2. -/
theorem lastOctet_carry_ne {d : ℕ} (hx : 255 ≤ x) (hq : (x + (d + 1)) / 255 ≤ 255)
    (hraw : rawOctet x ≠ 255) (hend : x % 255 + d = 254)
    (hsum : rawOctet x + d + (d + 1) = 255 ∨ rawOctet x + d + (d + 1) = 256)
    (hlast : ¬ x = 254 * 255 + 252) :
    lastOctet (x + d + 1) ≠ (rawOctet x + d + (d + 1)) % 255 + 1 := by
  have hval : rawOctet x = (x % 255 + x / 255) % 256 := by rw [rawOctet, if_neg (by omega)]
  have hwrap : rawOctet x = x % 255 + x / 255 ∨ rawOctet x + 256 = x % 255 + x / 255 := by
    omega
  have hnextBlock : (x + d + 1) / 255 = x / 255 + 1 := by omega
  have hnextRaw : rawOctet (x + d + 1) = x / 255 + 1 := by
    rw [rawOctet, if_neg (by omega)]
    omega
  by_cases h255 : x / 255 + 1 = 255
  · rw [lastOctet_of_replaced (Or.inr (hnextRaw.trans h255))]
    rcases hsum with hsum | hsum
    · rw [hsum]
      omega
    · rw [hsum]
      omega
  · rw [lastOctet_of_not_replaced (by rw [hnextRaw]; omega), hnextRaw]
    rcases hsum with hsum | hsum
    · rw [hsum]
      omega
    · rw [hsum]
      omega

/-- At the limit, the next position does not follow. -/
theorem not_follows_limit (hx : 0 < x) (hq : (x + listLimit x) / 255 ≤ 255) :
    ¬ Follows (x + (listLimit x - 1)) (listLimit x) := by
  have hraw := rawOctet_lt x
  rw [listLimit] at hq ⊢
  split_ifs at hq ⊢ with hblock h254 hreplaced hlast
  · rw [Nat.add_sub_cancel]
    have hoctet := rawOctet_of_lt (by omega : x + (255 - x) / 2 < 255)
    have hnot : ¬ (rawOctet (x + (255 - x) / 2) = 0 ∨ rawOctet (x + (255 - x) / 2) = 255) := by
      omega
    rintro (⟨hlt, -, -⟩ | ⟨-, hmod, hnext⟩)
    · rw [lastOctet_of_not_replaced hnot] at hlt
      omega
    · obtain rfl : x = 253 := by omega
      exact absurd hnext (by decide)
  · subst h254
    decide
  · rintro (⟨-, -, hnot⟩ | ⟨hle, -, -⟩)
    · exact hnot ⟨by omega, hreplaced⟩
    · change 255 ≤ lastOctet x + 1 at hle
      rw [lastOctet_of_replaced hreplaced] at hle
      omega
  · subst hlast
    decide
  · rw [Nat.add_sub_cancel]
    set d := min ((255 - rawOctet x) / 2) (254 - x % 255) with hd
    have hoctet : rawOctet (x + d) = rawOctet x + d := by
      rw [rawOctet_add (by omega) (by omega)]
      omega
    have hnot : ¬ (rawOctet (x + d) = 0 ∨ rawOctet (x + d) = 255) := by omega
    rintro (⟨hlt, hmod, -⟩ | ⟨hle, hmod, hnext⟩)
    · rw [lastOctet_of_not_replaced hnot] at hlt
      omega
    · rw [lastOctet_of_not_replaced hnot, hoctet] at hle hnext
      exact lastOctet_carry_ne (by omega) (by omega) (by omega) (by omega) (by omega) hlast hnext

theorem one_le_listLimit (x : ℕ) : 1 ≤ listLimit x := by
  rw [listLimit]
  split_ifs <;> omega

/-- **The positions follow** exactly up to the limit. -/
theorem forall_follows_iff {k : ℕ} (hx : 0 < x) (hq : ∀ i < k, (x + i) / 255 ≤ 255) :
    (∀ i < k, 1 ≤ i → Follows (x + (i - 1)) i) ↔ k ≤ listLimit x := by
  constructor
  · intro hall
    by_contra hgt
    exact not_follows_limit hx (hq _ (by omega)) (hall _ (by omega) (one_le_listLimit x))
  · intro hle i hi hone
    exact follows_of_lt_limit hx hone (by omega)

end Limit

/-! ### The agreement -/

/-- The address that `calculationIP` gives for the `i`-th number from `n` on is the one at the
position of `n`, counted on. -/
theorem atPosition_calculationIP {area : Area} {ipid : Word} {item : NetItem}
    (hitem : area.netItemOf ipid = some item) {n : Word} (hn : 0 < n.toInt) {i : ℕ}
    (hwrap : (n.toNat + (item.netStart 3).toNat + i) / 255 + (item.netStart 2).toNat ≤ 255)
    (info : MachineIPInfo) :
    AtPosition item (n.toNat + (item.netStart 3).toNat + i)
      (calculationIP (some area) (n + BitVec.ofNat 32 i) ipid info).2.ipAddress := by
  have hpos := toInt_eq_toNat_of_pos hn
  have hnat : (n + BitVec.ofNat 32 i).toNat = n.toNat + i := by
    rw [BitVec.toNat_add, BitVec.toNat_ofNat]
    omega
  have hint : 0 < (n + BitVec.ofNat 32 i).toInt := by
    rw [BitVec.toInt_eq_toNat_cond, hnat]
    split_ifs <;> omega
  have hposition : item.position (n + BitVec.ofNat 32 i) =
      n.toNat + (item.netStart 3).toNat + i := by
    rw [NetItem.position, hnat]
    omega
  have hwritten : (calculationIP (some area) (n + BitVec.ofNat 32 i) ipid info).2 =
      machineIPInfoOf item (n + BitVec.ofNat 32 i) := by
    rw [calculationIP_eq, hitem]
    simp only [CInt.toInt_word, hint, if_true]
  rw [hwritten, ← hposition]
  exact machineIPInfoOf_octets (by rw [hposition]; exact hwrap)

/-- **The listed addresses agree with the numbering**, for every net item, every number from 1 on
and every count such that no third octet wraps, if and only if `ipList` has room for the count and
the count is at most the limit of the first position. -/
theorem listAgrees_iff {area : Area} {ipid : Word} {item : NetItem}
    (hitem : area.netItemOf ipid = some item) {n : Word} (hn : 0 < n.toInt) {objectNum : ℕ}
    (hwrap : ∀ i < objectNum,
      (n.toNat + (item.netStart 3).toNat + i) / 255 + (item.netStart 2).toNat ≤ 255)
    (info : MachineIPInfo) :
    ListAgrees area ipid n objectNum info ↔
      objectNum ≤ 50 ∧ objectNum ≤ listLimit (n.toNat + (item.netStart 3).toNat) := by
  rcases Nat.eq_zero_or_pos objectNum with rfl | hpos
  · exact iff_of_true ⟨[], rfl, by simp⟩ (by simp)
  have hx : 0 < n.toNat + (item.netStart 3).toNat := by
    have := toInt_eq_toNat_of_pos hn
    omega
  have hplanned (i : ℕ) (hi : i < objectNum) := atPosition_calculationIP hitem hn (hwrap i hi) info
  have hfirst := hplanned 0 hpos
  rw [BitVec.add_zero, Nat.add_zero] at hfirst
  rw [← forall_follows_iff hx fun i hi ↦ le_trans (Nat.le_add_right ..) (hwrap i hi),
    ← forall_atPosition_iff hx hfirst hwrap]
  set ip := (calculationIP (some area) n ipid info).2.ipAddress
  have hrun : listAddresses objectNum 0 ip = _ := listAddresses_eq objectNum 0
  have hentry (i : ℕ) (hi : i < objectNum) :
      ((List.range' 0 objectNum).map fun j ↦ addressBefore ip (j + 1))[i]? =
        some (addressBefore ip (i + 1)) := by
    rw [List.getElem?_map, List.getElem?_range' hi, Option.map_some, Nat.one_mul, Nat.zero_add]
  constructor
  · rintro ⟨ipList, hlist, hagrees⟩
    rw [hrun] at hlist
    split_ifs at hlist with hroom
    cases hlist
    refine ⟨by omega, fun i hi ↦ ?_⟩
    have hsame := hagrees i hi
    rw [hentry i hi, Option.some.injEq] at hsame
    rw [hsame]
    exact hplanned i hi
  · rintro ⟨hroom, hat⟩
    rw [if_pos (by omega)] at hrun
    refine ⟨_, hrun, fun i hi ↦ ?_⟩
    rw [hentry i hi, (hat i hi).unique (hplanned i hi)]

/-- The 50 addresses from number 1 on of the sample subnet. -/
theorem listAgrees_sampleArea : ListAgrees sampleArea 1#32 1#32 50 ⟨0, 0, 0⟩ :=
  (listAgrees_iff (rfl : sampleArea.netItemOf 1#32 = some (sampleArea.netItem 0)) (by decide)
    (by decide) _).2 (by decide)

/-- From number 251 on, 192.168.1.253 is followed by 192.168.2.2, where number 254 has
192.168.1.254. -/
theorem not_listAgrees_251 :
    sampleArea.netItemOf 1#32 = some (sampleArea.netItem 0) ∧
      (∀ i < 4, (251 + (sampleArea.netItem 0 |>.netStart 3).toNat + i) / 255 +
        (sampleArea.netItem 0 |>.netStart 2).toNat ≤ 255) ∧
      ¬ ListAgrees sampleArea 1#32 251#32 4 ⟨0, 0, 0⟩ := by
  refine ⟨rfl, by decide, fun h ↦ ?_⟩
  obtain ⟨ipList, hlist, hagrees⟩ := h
  cases hlist
  exact absurd (hagrees 3 (by decide)) (by decide)

end DoorIntercom
