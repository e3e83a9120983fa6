import DoorIntercom.Area.IpPlan
import Mathlib.Tactic.IntervalCases

/-!
# The mask of a subnet

`calculationIP` takes the octets of the mask from `netEnd` alone: `256 - netEnd[j]` where the ends
of the range differ in octet `j`. In the first octet in which they differ that value, `-netEnd[j]`,
keeps the lowest bit of `netEnd[j]`; for the mask to be contiguous it must be a power of two, and
then the smaller `netStart[j]` does not have that bit (`not_agree_of_lt`). So the mask is right
exactly for the ranges inside one block of 256 addresses, where it is 255.255.255.0
(`maskCovers_calculationIP_iff`).
-/

namespace DoorIntercom

/-- The mask is ones followed by zeros. -/
def Contiguous (mask : IpAddress) : Prop :=
  ∃ k ≤ 32, addressValue mask = 2 ^ 32 - 2 ^ k

/-- Two addresses agree under a mask. -/
def AgreeUnder (mask a b : IpAddress) : Prop :=
  ∀ j, a j &&& mask j = b j &&& mask j

/-- The mask is a real one, and the addresses of the range agree under it. -/
def MaskCovers (item : NetItem) (mask : IpAddress) : Prop :=
  Contiguous mask ∧ AgreeUnder mask item.netStart item.netEnd ∧
    ∀ a, addressValue item.netStart ≤ addressValue a → addressValue a ≤ addressValue item.netEnd →
      AgreeUnder mask item.netStart a

/-! ### One octet -/

/-- An octet of an address, from its number. -/
theorem toNat_octet (ip : IpAddress) (j : Fin 4) :
    (ip j).toNat = addressValue ip / 2 ^ (8 * (3 - j.val)) % 2 ^ 8 := by
  have h0 := (ip 0).isLt
  have h1 := (ip 1).isLt
  have h2 := (ip 2).isLt
  have h3 := (ip 3).isLt
  rw [addressValue]
  match j with
  | 0 => simp only [Fin.val_zero]; omega
  | 1 => simp only [Fin.val_one]; omega
  | 2 => simp only [Fin.val_two]; omega
  | 3 => change _ = _ / 2 ^ (8 * (3 - 3)) % 2 ^ 8; omega

/-- The octets of a contiguous mask are contiguous. -/
theorem octet_of_contiguous {mask : IpAddress} (h : Contiguous mask) (j : Fin 4) :
    ∃ t ≤ 8, (mask j).toNat = 2 ^ 8 - 2 ^ t := by
  obtain ⟨k, hk, hvalue⟩ := h
  have hoctet : ∀ k < 33, ∀ j : Fin 4, (2 ^ 32 - 2 ^ k) / 2 ^ (8 * (3 - j.val)) % 2 ^ 8 =
      2 ^ 8 - 2 ^ min 8 (k - 8 * (3 - j.val)) := by
    decide
  exact ⟨min 8 (k - 8 * (3 - j.val)), min_le_left .., by
    rw [toNat_octet, hvalue, hoctet k (by omega)]⟩

/-- A power of two and a smaller number do not share the bit that the mask keeps. -/
theorem and_mask_ne {t : ℕ} (ht : t < 8) {s : UChar} (hs : s.toNat < 2 ^ t) :
    s &&& BitVec.ofNat 8 (256 - 2 ^ t) ≠
      BitVec.ofNat 8 (2 ^ t) &&& BitVec.ofNat 8 (256 - 2 ^ t) := by
  revert s
  interval_cases t <;> decide

/-- In an octet in which the start is smaller, the two ends do not agree under the mask that the end
gives, if that is contiguous. -/
theorem not_agree_of_lt {s e : UChar} (hlt : s.toNat < e.toNat) {t : ℕ} (ht : t ≤ 8)
    (hmask : (BitVec.ofNat 8 (256 - e.toNat)).toNat = 2 ^ 8 - 2 ^ t) :
    s &&& BitVec.ofNat 8 (256 - e.toNat) ≠ e &&& BitVec.ofNat 8 (256 - e.toNat) := by
  have he := e.isLt
  have hpow : 2 ^ t ≤ 2 ^ 8 := Nat.pow_le_pow_right (by decide) ht
  rw [BitVec.toNat_ofNat, Nat.mod_eq_of_lt (by omega)] at hmask
  have hval : e.toNat = 2 ^ t := by omega
  have heq : e = BitVec.ofNat 8 (2 ^ t) := by
    rw [← hval, BitVec.ofNat_toNat, BitVec.setWidth_eq]
  have ht8 : t < 8 := by
    rcases Nat.lt_or_eq_of_le ht with hlt' | rfl
    · exact hlt'
    · omega
  rw [hval]
  nth_rewrite 1 [heq]
  exact and_mask_ne ht8 (hval ▸ hlt)

/-! ### The first three octets -/

/-- The first three octets as a number. -/
theorem addressValue_div (ip : IpAddress) :
    addressValue ip / 2 ^ 8 = (ip 0).toNat * 2 ^ 16 + (ip 1).toNat * 2 ^ 8 + (ip 2).toNat := by
  have h3 := (ip 3).isLt
  rw [addressValue]
  omega

/-- Two addresses agree in their first three octets if these are the same number. -/
theorem forall_ne_three_iff {a b : IpAddress} :
    (∀ j, j ≠ 3 → a j = b j) ↔ addressValue a / 2 ^ 8 = addressValue b / 2 ^ 8 := by
  constructor
  · intro h
    rw [addressValue_div, addressValue_div, h 0 (by decide), h 1 (by decide), h 2 (by decide)]
  · intro h j hj
    rw [addressValue_div, addressValue_div] at h
    have ha1 := (a 1).isLt
    have ha2 := (a 2).isLt
    have hb1 := (b 1).isLt
    have hb2 := (b 2).isLt
    match j with
    | 0 => exact BitVec.eq_of_toNat_eq (by omega)
    | 1 => exact BitVec.eq_of_toNat_eq (by omega)
    | 2 => exact BitVec.eq_of_toNat_eq (by omega)
    | 3 => exact absurd rfl hj

/-! ### The mask of an item -/

section Mask

variable {item : NetItem}

theorem netMaskOf_of_ne {j : Fin 4} (hj : j ≠ 3) (hne : item.netStart j ≠ item.netEnd j) :
    netMaskOf item j = BitVec.ofNat 8 (256 - (item.netEnd j).toNat) := by
  rw [netMaskOf, if_neg hj, if_pos hne]

/-- A mask that covers the range leaves no octet but the last one in which the start is smaller. -/
theorem MaskCovers.not_lt (h : MaskCovers item (netMaskOf item)) {j : Fin 4} (hj : j ≠ 3) :
    ¬ (item.netStart j).toNat < (item.netEnd j).toNat := by
  intro hlt
  have hne : item.netStart j ≠ item.netEnd j := fun heq ↦ by
    rw [heq] at hlt
    exact lt_irrefl _ hlt
  obtain ⟨hcontiguous, hagree, -⟩ := h
  obtain ⟨t, ht, hmask⟩ := octet_of_contiguous hcontiguous j
  have hoctet := hagree j
  rw [netMaskOf_of_ne hj hne] at hmask hoctet
  exact not_agree_of_lt hlt ht hmask hoctet

/-- The last octet of the mask is 0. -/
theorem agreeUnder_of_eq {a b : IpAddress} (h : ∀ j, j ≠ 3 → a j = b j) :
    AgreeUnder (netMaskOf item) a b := by
  intro j
  by_cases hj : j = 3
  · rw [netMaskOf, if_pos hj, BitVec.and_zero, BitVec.and_zero]
  · rw [h j hj]

/-- **The mask of an item** is right exactly if the range is inside one block of 256 addresses. -/
theorem maskCovers_netMaskOf_iff (h : addressValue item.netStart ≤ addressValue item.netEnd) :
    MaskCovers item (netMaskOf item) ↔ ∀ j, j ≠ 3 → item.netStart j = item.netEnd j := by
  constructor
  · intro hcovers
    have h0 := hcovers.not_lt (by decide : (0 : Fin 4) ≠ 3)
    have h1 := hcovers.not_lt (by decide : (1 : Fin 4) ≠ 3)
    have h2 := hcovers.not_lt (by decide : (2 : Fin 4) ≠ 3)
    have hle := Nat.div_le_div_right (c := 2 ^ 8) h
    rw [forall_ne_three_iff]
    rw [addressValue_div, addressValue_div] at hle ⊢
    omega
  · intro hends
    refine ⟨⟨8, by decide, ?_⟩, agreeUnder_of_eq hends, fun a hlo hhi ↦ agreeUnder_of_eq ?_⟩
    · simp [addressValue, netMaskOf, hends]
    · rw [forall_ne_three_iff] at hends ⊢
      have hlo' := Nat.div_le_div_right (c := 2 ^ 8) hlo
      have hhi' := Nat.div_le_div_right (c := 2 ^ 8) hhi
      omega

end Mask

/-- **The computed mask is a real one that covers the range**, for every net item whose range is in
order and every number that is planned, if and only if the ends of the range agree in their first
three octets. -/
theorem maskCovers_calculationIP_iff {area : Area} {ipid : Word} {item : NetItem}
    (hitem : area.netItemOf ipid = some item)
    (h : addressValue item.netStart ≤ addressValue item.netEnd) {n : Word} (hn : 0 < n.toInt)
    (info : MachineIPInfo) :
    MaskCovers item (calculationIP (some area) n ipid info).2.netMask ↔
      ∀ j, j ≠ 3 → item.netStart j = item.netEnd j := by
  have hmask : (calculationIP (some area) n ipid info).2.netMask = netMaskOf item := by
    rw [calculationIP_eq, hitem]
    simp only [CInt.toInt_word, hn, if_true]
    rfl
  rw [hmask, maskCovers_netMaskOf_iff h]

/-- An estate with the range 192.168.1.0 to 192.168.1.255. -/
def sampleAreaOneBlock : Area :=
  { sampleArea with netItem := fun _ ↦ ⟨![192#8, 168#8, 1#8, 0#8], ![192#8, 168#8, 1#8, 255#8],
    ![192#8, 168#8, 1#8, 0#8], 1#32⟩ }

/-- Its mask is right. -/
theorem maskCovers_sampleAreaOneBlock :
    MaskCovers (sampleAreaOneBlock.netItem 1)
      (calculationIP (some sampleAreaOneBlock) 1#32 1#32 ⟨0, 0, 0⟩).2.netMask :=
  (maskCovers_calculationIP_iff (rfl : sampleAreaOneBlock.netItemOf 1#32 = some _) (by decide)
    (by decide) _).2 (by decide)

/-- The range 192.168.1.0 to 192.168.8.255 gets the mask 255.255.248.0. -/
theorem not_maskCovers_sampleArea :
    sampleArea.netItemOf 1#32 = some (sampleArea.netItem 0) ∧
      addressValue (sampleArea.netItem 0).netStart ≤ addressValue (sampleArea.netItem 0).netEnd ∧
      (calculationIP (some sampleArea) 1#32 1#32 ⟨0, 0, 0⟩).2.netMask =
        ![255#8, 255#8, 248#8, 0#8] ∧
      ¬ MaskCovers (sampleArea.netItem 0)
        (calculationIP (some sampleArea) 1#32 1#32 ⟨0, 0, 0⟩).2.netMask := by
  refine ⟨rfl, by decide, by decide, fun h ↦ ?_⟩
  exact absurd (h.2.1 2) (by decide)

end DoorIntercom
