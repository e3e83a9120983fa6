import DoorIntercom.Area.IpOctets
import DoorIntercom.Area.SubnetNumbers

/-!
# The addresses of a site

Numbers and addresses together: the building devices of a subnet have the numbers `1 .. N`, and
number `k` has the position `k + s`, where `s` is the last octet of `netStart`. The first two
positions that collide are 255 and 509, so the plan of a subnet is injective up to the position 508.
Only a start of 255 skips the position 255, and then the next pair is 763 and 764.

So `N` building devices of one subnet get different addresses exactly if `N + s ≤ 508`, or `s = 255`
and `N ≤ 508` (`addressesDistinct_iff`).
-/

namespace DoorIntercom

/-! ### Addresses of small positions -/

section Positions

variable {item : NetItem} {n m : Word}

/-- Up to the block 255, block and octet are those of the position, wherever `netStart` begins. -/
theorem plan_eq_of_block_le (h : item.position n / 255 ≤ 255) :
    planBlock item n = item.position n / 255 ∧ planOctet item n = lastOctet (item.position n) := by
  -- block and octet do not depend on the third octet of `netStart`, so take it to be 0
  let item' : NetItem := { item with netStart := Function.update item.netStart 2 0#8 }
  have hpos : item'.position n = item.position n := rfl
  have hblock : planBlock item' n = planBlock item n := rfl
  have hoctet : planOctet item' n = planOctet item n := rfl
  have hzero : (item'.netStart 2).toNat = 0 := by
    show (Function.update item.netStart 2 0#8 2).toNat = 0
    rw [Function.update_self]
    rfl
  have hlt := planBlock_lt item n
  have hroom : item'.position n / 255 + (item'.netStart 2).toNat ≤ 255 := by omega
  obtain ⟨-, -, h2, h3⟩ := machineIPInfoOf_octets hroom
  obtain ⟨-, -, h2', h3'⟩ := machineIPInfoOf_octets_all item' n
  rw [hpos] at h2 h3
  rw [hblock] at h2'
  exact ⟨by omega, by omega⟩

/-- Up to the block 255 two addresses agree exactly when block and last octet do: a third octet that
wraps does not come back to its start. -/
theorem ipAddress_eq_iff_of_block_le (hn : item.position n / 255 ≤ 255)
    (hm : item.position m / 255 ≤ 255) :
    (machineIPInfoOf item n).ipAddress = (machineIPInfoOf item m).ipAddress ↔
      item.position n / 255 = item.position m / 255 ∧
        lastOctet (item.position n) = lastOctet (item.position m) := by
  obtain ⟨hnb, hno⟩ := plan_eq_of_block_le hn
  obtain ⟨hmb, hmo⟩ := plan_eq_of_block_le hm
  obtain ⟨hn0, hn1, hn2, hn3⟩ := machineIPInfoOf_octets_all item n
  obtain ⟨hm0, hm1, hm2, hm3⟩ := machineIPInfoOf_octets_all item m
  constructor
  · intro h
    have h2 := congrArg BitVec.toNat (congrFun h 2)
    have h3 := congrArg BitVec.toNat (congrFun h 3)
    exact ⟨by omega, by omega⟩
  · rintro ⟨h2, h3⟩
    funext j
    match j with
    | 0 => rw [hn0, hm0]
    | 1 => rw [hn1, hm1]
    | 2 => exact BitVec.eq_of_toNat_eq (by rw [hn2, hm2, hnb, hmb, h2])
    | 3 => exact BitVec.eq_of_toNat_eq (by rw [hn3, hm3, hno, hmo, h3])

/-- No two positions up to 508 are folded in the same block, and none from 256 to 763. -/
theorem not_folded_of_le {x y : ℕ} (hxy : x ≠ y) (hq : x / 255 = y / 255)
    (h : (x ≤ 508 ∧ y ≤ 508) ∨ (255 < x ∧ x ≤ 763 ∧ 255 < y ∧ y ≤ 763)) :
    ¬ (Folded x ∧ Folded y) := by
  rintro ⟨⟨hx, hx'⟩, hy, hy'⟩
  have hbx : x / 255 = 1 ∨ x / 255 = 2 := by omega
  rcases hbx with hb | hb <;> omega

end Positions

/-! ### Numbers of a subnet as `int`s -/

section Places

variable {item : NetItem} {k : ℕ}

theorem toInt_ofNat_pos (hk : 0 < k) (hlt : k < 2 ^ 31) : 0 < (BitVec.ofNat 32 k).toInt := by
  rw [BitVec.toInt_eq_toNat_of_lt] <;> rw [BitVec.toNat_ofNat] <;> omega

theorem position_ofNat (item : NetItem) (hlt : k < 2 ^ 32) :
    item.position (BitVec.ofNat 32 k) = k + (item.netStart 3).toNat := by
  rw [NetItem.position, BitVec.toNat_ofNat, Nat.mod_eq_of_lt hlt]

/-- A place as an `int`. -/
theorem place_word {area : Area} {ipid : UChar} {d : BuildingDevice}
    (hk : (d.place area ipid : ℤ) = k) : (d.place area ipid : Word) = BitVec.ofNat 32 k := by
  rw [← cast_place (R := Word), hk, Int.cast_natCast, BitVec.natCast_eq_ofNat]

end Places

/-! ### The addresses that `initMachineInfo` plans -/

/-- `initMachineInfo` plans the address for some code of the building device, in area 1. -/
def Addressed (area : Area) (ipid : UChar) (d : BuildingDevice) (ipAddress : IpAddress) : Prop :=
  ∃ machineCode machineInfo n machineInfo',
    (praseMachineCode machineCode).areaIndex.toNat = 1 ∧
      deviceOf (praseMachineCode machineCode) = some (.building d) ∧
      initMachineInfo (R := Word) machineCode (some area) machineInfo = .ok (n, machineInfo') ∧
      n ≠ 0 ∧ machineInfo'.ipid = ipid ∧ machineInfo'.machineIPInfo.ipAddress = ipAddress

/-- No two building devices of the subnet share an address. -/
def AddressesDistinct (area : Area) (ipid : UChar) : Prop :=
  ∀ d₁ d₂ ipAddress, Addressed area ipid d₁ ipAddress → Addressed area ipid d₂ ipAddress → d₁ = d₂

section Addresses

variable {area : Area} {ipid : UChar} {item : NetItem} {d : BuildingDevice}
  {machineCode : ULongLong}

/-- A positive number is planned by the net item of its `IPID`. -/
theorem planAddress_ipAddress {n : Word} {machineInfo : MachineInfo}
    (hitem : area.netItemOf (machineInfo.ipid.setWidth 32) = some item) (hn : 0 < n.toInt) :
    (planAddress area n machineInfo).machineIPInfo.ipAddress =
      (machineIPInfoOf item n).ipAddress := by
  rw [planAddress, calculationIP_eq, hitem]
  simp only [CInt.toInt_word, hn, if_true]

/-- **The address of a configured building device**, if its number is positive as an `int`. -/
theorem exists_ipAddress_of_configured (h : area.RangesOrdered)
    (hone : ∀ b ∈ area.buildList, 1 ≤ b.buildEnd.toNat)
    (hitem : area.netItemOf (ipid.setWidth 32) = some item)
    (harea : (praseMachineCode machineCode).areaIndex.toNat = 1)
    (hdev : deviceOf (praseMachineCode machineCode) = some (.building d))
    (hd : d ∈ configuredDevices area ipid) (hpos : 0 < (d.place area ipid : Word).toInt)
    (machineInfo : MachineInfo) :
    ∃ machineInfo', machineInfo'.ipid = ipid ∧
      machineInfo'.machineIPInfo.ipAddress =
        (machineIPInfoOf item (d.place area ipid : Word)).ipAddress ∧
      initMachineInfo (R := Word) machineCode (some area) machineInfo =
        .ok (d.place area ipid, machineInfo') := by
  obtain ⟨type, x, htype, hx, rfl⟩ := exists_of_deviceOf_building hdev
  obtain ⟨build, hfilter, hbuild, cell, hcell, hc, hconf⟩ := hd
  obtain ⟨hmem, rfl⟩ := Area.mem_subnet.1 hfilter
  have ha : (praseMachineCode machineCode).areaIndex.toNat ≤ build.buildEnd.toNat :=
    harea ▸ hone build hmem
  exact ⟨_, rfl, planAddress_ipAddress hitem hpos,
    initMachineInfo_building htype hx h hmem hbuild ha hcell hc hconf⟩

/-- A device with a small place gets the address of its place. -/
theorem addressed_of_place (h : area.Ordered)
    (hitem : area.netItemOf (ipid.setWidth 32) = some item) (hd : d ∈ configuredDevices area ipid)
    {k : ℕ} (hk : (d.place area ipid : ℤ) = k) (hpos : 0 < k) (hlt : k < 2 ^ 31) :
    Addressed area ipid d (machineIPInfoOf item (BitVec.ofNat 32 k)).ipAddress := by
  obtain ⟨code, harea, hdev⟩ := exists_code_of_configured hd
  have hplace := place_word hk
  have hword : 0 < (d.place area ipid : Word).toInt := hplace ▸ toInt_ofNat_pos hpos hlt
  obtain ⟨info', hipid, hip, hinit⟩ := exists_ipAddress_of_configured h.toRangesOrdered
    h.one_le_buildEnd hitem harea hdev hd hword ⟨0, 0, 0, 0, ⟨0, 0, 0⟩⟩
  refine ⟨code, _, _, info', harea, hdev, hinit, ?_, hipid, hplace ▸ hip⟩
  rintro hzero
  rw [hzero] at hword
  exact absurd hword (by decide)

/-- And no other. -/
theorem Addressed.exists_place (h : area.Ordered)
    (hitem : area.netItemOf (ipid.setWidth 32) = some item) {ipAddress : IpAddress}
    (ha : Addressed area ipid d ipAddress) (hlt : area.subnetCount ipid < 2 ^ 31) :
    d ∈ configuredDevices area ipid ∧ ∃ k : ℕ, (d.place area ipid : ℤ) = k ∧ 0 < k ∧
      k ≤ area.subnetCount ipid ∧
        ipAddress = (machineIPInfoOf item (BitVec.ofNat 32 k)).ipAddress := by
  obtain ⟨code, info, n, info', harea, hdev, hinit, hn, rfl, rfl⟩ := ha
  have hd := configured_of_initMachineInfo h harea hdev hinit hn
  have hone : 1 ≤ (d.place area info'.ipid : ℤ) := (numbers_configured h _).one_le hd
  have hle : (d.place area info'.ipid : ℤ) ≤ area.subnetCount info'.ipid :=
    (numbers_configured h _).le hd
  obtain ⟨k, hk⟩ := Int.eq_ofNat_of_zero_le (show 0 ≤ (d.place area info'.ipid : ℤ) by omega)
  have hplace := place_word hk
  have hword : 0 < (d.place area info'.ipid : Word).toInt :=
    hplace ▸ toInt_ofNat_pos (by omega) (by omega)
  obtain ⟨info'', hipid, hip, hinit'⟩ := exists_ipAddress_of_configured h.toRangesOrdered
    h.one_le_buildEnd hitem harea hdev hd hword info
  rw [hinit] at hinit'
  cases hinit'
  exact ⟨hd, k, hk, by omega, by omega, hplace ▸ hip⟩

/-- Two places of a subnet with one address. -/
theorem AddressesDistinct.place_eq (h : area.Ordered)
    (hitem : area.netItemOf (ipid.setWidth 32) = some item) (hdist : AddressesDistinct area ipid)
    {k l : ℕ} (hk : 0 < k) (hl : 0 < l) (hkN : k ≤ area.subnetCount ipid)
    (hlN : l ≤ area.subnetCount ipid) (hk' : k < 2 ^ 31) (hl' : l < 2 ^ 31)
    (hip : (machineIPInfoOf item (BitVec.ofNat 32 k)).ipAddress =
      (machineIPInfoOf item (BitVec.ofNat 32 l)).ipAddress) : k = l := by
  obtain ⟨d₁, hd₁, hp₁⟩ := exists_building_place h ipid hk hkN
  obtain ⟨d₂, hd₂, hp₂⟩ := exists_building_place h ipid hl hlN
  have heq := hdist d₁ d₂ _ (addressed_of_place h hitem hd₁ hp₁ hk hk')
    (hip ▸ addressed_of_place h hitem hd₂ hp₂ hl hl')
  rw [heq] at hp₁
  exact_mod_cast hp₁.symm.trans hp₂

/-- **Up to the position 508** no two places have the same address. -/
theorem addressesDistinct_of_le (h : area.Ordered)
    (hitem : area.netItemOf (ipid.setWidth 32) = some item)
    (hle : area.subnetCount ipid + (item.netStart 3).toNat ≤ 508 ∨
      ((item.netStart 3).toNat = 255 ∧ area.subnetCount ipid ≤ 508)) :
    AddressesDistinct area ipid := by
  intro d₁ d₂ ipAddress ha₁ ha₂
  have hN : area.subnetCount ipid ≤ 508 := by omega
  obtain ⟨hd₁, k, hk, hkpos, hkN, rfl⟩ := ha₁.exists_place h hitem (by omega)
  obtain ⟨hd₂, l, hl, hlpos, hlN, hip⟩ := ha₂.exists_place h hitem (by omega)
  have hs := (item.netStart 3).isLt
  have hposk := position_ofNat item (k := k) (by omega)
  have hposl := position_ofNat item (k := l) (by omega)
  obtain ⟨hq, hlast⟩ := (ipAddress_eq_iff_of_block_le (by omega) (by omega)).1 hip
  rw [hposk, hposl] at hq hlast
  have hkl : k = l := by
    by_contra hne
    have hfold := (lastOctet_eq_iff (by omega) (by omega) (by omega) hq).1 hlast
    exact not_folded_of_le (by omega) hq (by omega) hfold
  subst hkl
  exact (numbers_configured h ipid).eq_of_eq hd₁ hd₂ (hk.trans hl.symm)

end Addresses

/-! ### When the addresses of a subnet are different -/

/-- **Numbers and addresses together**: the building devices of a subnet with a net item get
different addresses if and only if their number and the last octet of `netStart` add up to at most
508, or the start is 255 and there are at most 508 of them. -/
theorem addressesDistinct_iff {area : Area} (h : area.Ordered) {ipid : UChar} {item : NetItem}
    (hitem : area.netItemOf (ipid.setWidth 32) = some item) :
    AddressesDistinct area ipid ↔
      area.subnetCount ipid + (item.netStart 3).toNat ≤ 508 ∨
        ((item.netStart 3).toNat = 255 ∧ area.subnetCount ipid ≤ 508) := by
  refine ⟨fun hdist ↦ ?_, addressesDistinct_of_le h hitem⟩
  by_contra hlt
  have hs := (item.netStart 3).isLt
  -- the two positions that collide first
  obtain ⟨k, l, hk, hkl, hl, hlN, hip⟩ : ∃ k l, 0 < k ∧ k < l ∧ l ≤ 509 ∧
      l ≤ area.subnetCount ipid ∧ (machineIPInfoOf item (BitVec.ofNat 32 k)).ipAddress =
        (machineIPInfoOf item (BitVec.ofNat 32 l)).ipAddress := by
    have hcollide {k l : ℕ} (hk : k ≤ 509) (hl : l ≤ 509)
        (hq : (k + (item.netStart 3).toNat) / 255 = (l + (item.netStart 3).toNat) / 255)
        (hlast : lastOctet (k + (item.netStart 3).toNat) =
          lastOctet (l + (item.netStart 3).toNat)) :
        (machineIPInfoOf item (BitVec.ofNat 32 k)).ipAddress =
          (machineIPInfoOf item (BitVec.ofNat 32 l)).ipAddress := by
      have hposk := position_ofNat item (k := k) (by omega)
      have hposl := position_ofNat item (k := l) (by omega)
      refine (ipAddress_eq_iff_of_block_le (by omega) (by omega)).2 ?_
      rw [hposk, hposl]
      exact ⟨hq, hlast⟩
    by_cases h255 : (item.netStart 3).toNat = 255
    · refine ⟨508, 509, by decide, by decide, by decide, by omega,
        hcollide (by decide) (by decide) ?_ ?_⟩ <;> rw [h255]
      rfl
    · refine ⟨255 - (item.netStart 3).toNat, 509 - (item.netStart 3).toNat, by omega, by omega,
        by omega, by omega, hcollide (by omega) (by omega) ?_ ?_⟩
      · omega
      · rw [Nat.sub_add_cancel (by omega), Nat.sub_add_cancel (by omega)]
        rfl
  exact absurd (hdist.place_eq h hitem hk (by omega) (by omega) hlN (by omega) (by omega) hip)
    (by omega)

/-- The 57 building devices of the sample subnet. -/
theorem addressesDistinct_sampleArea : AddressesDistinct sampleArea 1#8 :=
  (addressesDistinct_iff sampleArea_ordered
    (rfl : sampleArea.netItemOf ((1#8).setWidth 32) = some (sampleArea.netItem 0))).2 (by decide)

end DoorIntercom
