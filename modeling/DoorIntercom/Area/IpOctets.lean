import DoorIntercom.Area.IpPlan
import Mathlib.Tactic.NormNum

/-!
# The octets of a planned address

The address of machine number `n` depends on the last octet `s` of `netStart` only through the
position `x = n + s`: the third octet carries `x / 255`, the last one is `lastOctet x`. Within the
first block (`x < 255`) the last octet is `x` itself. In a later block `q` it is
`x % 255 + q` truncated to a byte, which takes every value but `q - 1` exactly once — and then 0 and
255 are both moved onto 1. So two positions of one block collide exactly when both of them are
*folded*, that is, truncated to 255, 0 or 1 (`lastOctet_eq_iff`), and two machine numbers collide
exactly when their positions do (`calculationIP_ipAddress_ne_iff`).

For any `int`, also where the sum or the octets wrap, the octets are those of the number's block and
octet (`machineIPInfoOf_octets_all`).
-/

namespace DoorIntercom

/-! ### The last octet of a position -/

/-- The last octet at position `x`, before 0 and 255 are replaced. -/
def rawOctet (x : ℕ) : ℕ :=
  if x / 255 = 0 then x else (x % 255 + x / 255) % 256

/-- The last octet at position `x`. -/
def lastOctet (x : ℕ) : ℕ :=
  if rawOctet x % 255 = 0 then 1 else rawOctet x

/-- The octet at position `x`, past the first block, is truncated to 255, 0 or 1. -/
def Folded (x : ℕ) : Prop :=
  255 ≤ x ∧ (x % 255 + x / 255 + 1) % 256 ≤ 2

instance (x : ℕ) : Decidable (Folded x) :=
  inferInstanceAs (Decidable (_ ∧ _))

/-- Past the first block the three folded values all become 1, the other values stay apart. -/
theorem lastOctet_of_folded {x : ℕ} (h : Folded x) : lastOctet x = 1 := by
  obtain ⟨hx, hmod⟩ := h
  have hq : x / 255 ≠ 0 := by omega
  rw [lastOctet, rawOctet, if_neg hq]
  generalize x % 255 + x / 255 = v at hmod
  have hv : v % 256 = 255 ∨ v % 256 = 0 ∨ v % 256 = 1 := by omega
  rcases hv with hv | hv | hv <;> rw [hv] <;> rfl

theorem lastOctet_of_not_folded {x : ℕ} (hx : 0 < x) (h : ¬ Folded x) :
    lastOctet x = rawOctet x := by
  rw [lastOctet, if_neg]
  by_cases hq : x / 255 = 0
  · rw [rawOctet, if_pos hq]
    omega
  · rw [rawOctet, if_neg hq]
    intro hmod
    have hv : (x % 255 + x / 255) % 256 = 0 ∨ (x % 255 + x / 255) % 256 = 255 := by omega
    exact h ⟨by omega, by rcases hv with hv | hv <;> omega⟩

/-- Positions of one block have different raw octets. -/
theorem eq_of_rawOctet_eq {x y : ℕ} (hq : x / 255 = y / 255) (h : rawOctet x = rawOctet y) :
    x = y := by
  rw [rawOctet, rawOctet] at h
  split_ifs at h <;> omega

theorem one_ne_rawOctet_of_not_folded {x y : ℕ} (hq : x / 255 = y / 255) (hx : Folded x)
    (hy : ¬ Folded y) : rawOctet y ≠ 1 := by
  intro h
  obtain ⟨hx255, -⟩ := hx
  rw [rawOctet, if_neg (by omega)] at h
  exact hy ⟨by omega, by omega⟩

/-- **Collisions of one block.** Different positive positions of one block have the same last octet
exactly when both are folded. -/
theorem lastOctet_eq_iff {x y : ℕ} (hx : 0 < x) (hy : 0 < y) (hxy : x ≠ y)
    (hq : x / 255 = y / 255) : lastOctet x = lastOctet y ↔ Folded x ∧ Folded y := by
  constructor
  · intro h
    by_cases hfx : Folded x <;> by_cases hfy : Folded y
    · exact ⟨hfx, hfy⟩
    · rw [lastOctet_of_folded hfx, lastOctet_of_not_folded hy hfy] at h
      exact absurd h.symm (one_ne_rawOctet_of_not_folded hq hfx hfy)
    · rw [lastOctet_of_not_folded hx hfx, lastOctet_of_folded hfy] at h
      exact absurd h (one_ne_rawOctet_of_not_folded hq.symm hfy hfx)
    · rw [lastOctet_of_not_folded hx hfx, lastOctet_of_not_folded hy hfy] at h
      exact absurd (eq_of_rawOctet_eq hq h) hxy
  · rintro ⟨hfx, hfy⟩
    rw [lastOctet_of_folded hfx, lastOctet_of_folded hfy]

/-! ### The octets of any number -/

/-- The sum that `calculationIP` divides. -/
def planSum (item : NetItem) (n : Word) : ℤ := (n + ((item.netStart 3).toNat : Word)).toInt

/-- The block of a number, as a byte. -/
def planBlock (item : NetItem) (n : Word) : ℕ := ((planSum item n).tdiv 255 % 256).toNat

/-- The last octet of a number. -/
def planOctet (item : NetItem) (n : Word) : ℕ :=
  if ((planSum item n).tmod 255 + planBlock item n) % 256 % 255 = 0 then 1
  else (((planSum item n).tmod 255 + planBlock item n) % 256).toNat

theorem planBlock_lt (item : NetItem) (n : Word) : planBlock item n < 256 := by
  rw [planBlock]
  omega

theorem planOctet_bounds (item : NetItem) (n : Word) :
    1 ≤ planOctet item n ∧ planOctet item n ≤ 254 := by
  rw [planOctet]
  split_ifs with hmod <;> omega

theorem ofInt_toNat_eq (z : ℤ) : (BitVec.ofInt 8 z).toNat = (z % 256).toNat := by
  rw [BitVec.toNat_ofInt]
  rfl

/-- The low octet of a sum, before 0 and 255 are replaced. -/
def lowOctet (sum : ℤ) : UChar :=
  if BitVec.ofInt 8 (sum.tdiv 255) = 0#8 then BitVec.ofInt 8 sum
  else BitVec.ofInt 8 (sum.tmod 255 + (BitVec.ofInt 8 (sum.tdiv 255)).toNat)

/-- In the block 0 the sum is written undivided; 255 blocks of 256 are a multiple of 256. -/
theorem lowOctet_toNat (sum : ℤ) :
    (lowOctet sum).toNat = ((sum.tmod 255 + (sum.tdiv 255 % 256).toNat) % 256).toNat := by
  have hdiv := Int.mul_tdiv_add_tmod sum 255
  have hblock := ofInt_toNat_eq (sum.tdiv 255)
  rw [lowOctet]
  split_ifs with hzero
  · rw [hzero] at hblock
    change 0 = _ at hblock
    rw [ofInt_toNat_eq, ← hblock]
    omega
  · rw [ofInt_toNat_eq, hblock]

/-- **The octets that are written**, for any number. -/
theorem machineIPInfoOf_octets_all (item : NetItem) (n : Word) :
    (machineIPInfoOf item n).ipAddress 0 = item.netStart 0 ∧
      (machineIPInfoOf item n).ipAddress 1 = item.netStart 1 ∧
      ((machineIPInfoOf item n).ipAddress 2).toNat =
        ((item.netStart 2).toNat + planBlock item n) % 256 ∧
      ((machineIPInfoOf item n).ipAddress 3).toNat = planOctet item n := by
  have hlow := lowOctet_toNat (planSum item n)
  refine ⟨rfl, rfl, ?_, ?_⟩
  · show (item.netStart 2 + BitVec.ofInt 8 ((planSum item n).tdiv 255)).toNat = _
    rw [BitVec.toNat_add, ofInt_toNat_eq]
    rfl
  · show BitVec.toNat (if (lowOctet (planSum item n)).toNat % 255 = 0 then 1#8
      else lowOctet (planSum item n)) = _
    rw [planOctet, planBlock]
    split_ifs with hlow0 hmod hmod
    · rfl
    · omega
    · omega
    · exact hlow

/-! ### The octets that `calculationIP` writes -/

/-- A positive `int` is its word. -/
theorem toInt_eq_toNat_of_pos {n : Word} (hn : 0 < n.toInt) :
    n.toInt = n.toNat ∧ 2 * n.toNat < 2 ^ 32 := by
  rw [BitVec.toInt_eq_toNat_cond] at hn ⊢
  split_ifs at hn ⊢ <;> omega

variable {item : NetItem} {n : Word}

/-- The position of a machine number in the plan of a net item. -/
def NetItem.position (item : NetItem) (n : Word) : ℕ :=
  n.toNat + (item.netStart 3).toNat

/-- The sum that is divided is the position, as long as it is an `int`. -/
theorem toInt_add_netStart (h : item.position n < 2 ^ 31) :
    CInt.toInt (n + ((item.netStart 3).toNat : Word)) = item.position n := by
  have hs := (item.netStart 3).isLt
  rw [NetItem.position] at h ⊢
  have hsum : (n + ((item.netStart 3).toNat : Word)).toNat = n.toNat + (item.netStart 3).toNat := by
    rw [BitVec.toNat_add, BitVec.natCast_eq_ofNat, BitVec.toNat_ofNat]
    omega
  rw [CInt.toInt_word, BitVec.toInt_eq_toNat_cond, hsum, if_pos (by omega)]

/-- Below the octet wrap the third octet carries the block and the last one is the position's. -/
theorem machineIPInfoOf_octets (h : item.position n / 255 + (item.netStart 2).toNat ≤ 255) :
    (machineIPInfoOf item n).ipAddress 0 = item.netStart 0 ∧
      (machineIPInfoOf item n).ipAddress 1 = item.netStart 1 ∧
      ((machineIPInfoOf item n).ipAddress 2).toNat =
        (item.netStart 2).toNat + item.position n / 255 ∧
      ((machineIPInfoOf item n).ipAddress 3).toNat = lastOctet (item.position n) := by
  set x := item.position n
  have hsum : planSum item n = x := toInt_add_netStart (by omega)
  have hblock : planBlock item n = x / 255 := by
    rw [planBlock, hsum, show (x : ℤ).tdiv 255 = ((x / 255 : ℕ) : ℤ) from rfl]
    omega
  have hraw : ((x : ℤ).tmod 255 + (x / 255 : ℕ)) % 256 = (rawOctet x : ℕ) := by
    rw [show (x : ℤ).tmod 255 = ((x % 255 : ℕ) : ℤ) from rfl, rawOctet]
    split_ifs <;> push_cast <;> omega
  have hoctet : planOctet item n = lastOctet x := by
    rw [planOctet, hblock, hsum, hraw, lastOctet]
    split_ifs <;> omega
  obtain ⟨h0, h1, h2, h3⟩ := machineIPInfoOf_octets_all item n
  rw [hblock, Nat.mod_eq_of_lt (by omega)] at h2
  exact ⟨h0, h1, h2, h3.trans hoctet⟩

/-! ### Collisions of machine numbers -/

theorem NetItem.position_injective {m : Word} (h : item.position n = item.position m) : n = m := by
  rw [NetItem.position, NetItem.position] at h
  exact BitVec.eq_of_toNat_eq (by omega)

/-- Addresses of two positions below the octet wrap agree exactly when their blocks and their last
octets do. -/
theorem machineIPInfoOf_ipAddress_eq_iff {m : Word}
    (hn : item.position n / 255 + (item.netStart 2).toNat ≤ 255)
    (hm : item.position m / 255 + (item.netStart 2).toNat ≤ 255) :
    (machineIPInfoOf item n).ipAddress = (machineIPInfoOf item m).ipAddress ↔
      item.position n / 255 = item.position m / 255 ∧
        lastOctet (item.position n) = lastOctet (item.position m) := by
  obtain ⟨hn0, hn1, hn2, hn3⟩ := machineIPInfoOf_octets hn
  obtain ⟨hm0, hm1, hm2, hm3⟩ := machineIPInfoOf_octets hm
  constructor
  · intro h
    have h2 := congrArg BitVec.toNat (congrFun h 2)
    have h3 := congrArg BitVec.toNat (congrFun h 3)
    exact ⟨by omega, by omega⟩
  · rintro ⟨h2, h3⟩
    funext j
    match j with
    | 0 => rw [hn0, hm0]
    | 1 => rw [hn1, hm1]
    | 2 => exact BitVec.eq_of_toNat_eq (by omega)
    | 3 => exact BitVec.eq_of_toNat_eq (by omega)

/-- **When two machine numbers of a subnet collide.** For different positive numbers whose third
octet does not wrap, the addresses differ unless both positions are folded in the same block. -/
theorem calculationIP_ipAddress_ne_iff {area : Area} {ipid : Word}
    (hitem : area.netItemOf ipid = some item) {m : Word} (hn : 0 < n.toInt) (hm : 0 < m.toInt)
    (hnm : n ≠ m)
    (hnw : (n.toNat + (item.netStart 3).toNat) / 255 + (item.netStart 2).toNat ≤ 255)
    (hmw : (m.toNat + (item.netStart 3).toNat) / 255 + (item.netStart 2).toNat ≤ 255)
    (info info' : MachineIPInfo) :
    (calculationIP (some area) n ipid info).2.ipAddress ≠
        (calculationIP (some area) m ipid info').2.ipAddress ↔
      ¬ ((n.toNat + (item.netStart 3).toNat) / 255 = (m.toNat + (item.netStart 3).toNat) / 255 ∧
        Folded (n.toNat + (item.netStart 3).toNat) ∧
        Folded (m.toNat + (item.netStart 3).toNat)) := by
  have hposn : 0 < item.position n := by
    have := toInt_eq_toNat_of_pos hn
    rw [NetItem.position]
    omega
  have hposm : 0 < item.position m := by
    have := toInt_eq_toNat_of_pos hm
    rw [NetItem.position]
    omega
  have hne : item.position n ≠ item.position m := fun h ↦ hnm (NetItem.position_injective h)
  have hwritten : ∀ {k : Word} (i : MachineIPInfo), 0 < k.toInt →
      (calculationIP (some area) k ipid i).2 = machineIPInfoOf item k := by
    intro k i hk
    rw [calculationIP_eq, hitem]
    simp only [CInt.toInt_word, hk, if_true]
  rw [hwritten info hn, hwritten info' hm, ne_eq, not_iff_not,
    machineIPInfoOf_ipAddress_eq_iff hnw hmw]
  exact and_congr_right fun hq ↦ lastOctet_eq_iff hposn hposm hne hq

/-- Numbers 254 and 255 of the sample subnet are in different blocks. -/
theorem calculationIP_ipAddress_ne_254_255 :
    (calculationIP (some sampleArea) 254#32 1#32 ⟨0, 0, 0⟩).2.ipAddress ≠
      (calculationIP (some sampleArea) 255#32 1#32 ⟨0, 0, 0⟩).2.ipAddress :=
  (calculationIP_ipAddress_ne_iff (rfl : sampleArea.netItemOf 1#32 = some (sampleArea.netItem 0))
    (by decide) (by decide) (by decide) (by decide) (by decide) _ _).2 (by decide)

/-- Numbers 255 and 509 of the sample subnet both get 192.168.2.1. -/
theorem calculationIP_collision_255_509 :
    (255 + (sampleArea.netItem 0 |>.netStart 3).toNat) / 255 +
        (sampleArea.netItem 0 |>.netStart 2).toNat ≤ 255 ∧
      (509 + (sampleArea.netItem 0 |>.netStart 3).toNat) / 255 +
        (sampleArea.netItem 0 |>.netStart 2).toNat ≤ 255 ∧
      (calculationIP (some sampleArea) 255#32 1#32 ⟨0, 0, 0⟩).2.ipAddress =
        (calculationIP (some sampleArea) 509#32 1#32 ⟨0, 0, 0⟩).2.ipAddress :=
  ⟨by decide, by decide, by decide⟩

end DoorIntercom
