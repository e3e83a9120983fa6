import DoorIntercom.Area.SubnetNumbers

/-!
# The error contract of `initMachineInfo`

What the callers rely on: a positive number comes with a planned address, and anything else is
reported by 0 with `*machineInfo` untouched. The parameter switch comes first and keeps the contract
(`errorContract_of_refused`), but once it has passed, `*machineInfo` is written field by field and
nothing is reported any more: not that no net item has the device's `IPID` (the result of
`calculationIP` is ignored), not that the number is 0 or negative.

`errorContract_iff` lists the codes for which the contract holds. Apart from net items and
overflowing numbers, two slips show: index 0 passes the switch for a `Guard` record that begins at
0, and the building searches compare the **area** index with the end of the building's range, so
that building 0 is not found in a range that ends at 0.
-/

namespace DoorIntercom

/-! ### The contract -/

/-- Some net item plans the subnet. -/
def Area.HasNetItem (area : Area) (ipid : UChar) : Prop :=
  ∃ i, (area.netItem i).IPID = ipid.setWidth 32

instance (area : Area) (ipid : UChar) : Decidable (area.HasNetItem ipid) :=
  inferInstanceAs (Decidable (∃ _, _))

/-- The code denotes a configured device of the subnet, with an index from 1. -/
def Denotes (area : Area) (c : CodeFields) (ipid : UChar) : Prop :=
  1 ≤ c.subMachineIndex.toNat ∧ ∃ d, deviceOf c = some d ∧ d.Configured area ipid

/-- A configured device with a net item gets a positive number and the address that such an item
plans for it; everything else gets 0, and `*machineInfo` is left as it was. -/
def ErrorContract (area : Area) (machineCode : ULongLong) : Prop :=
  ∀ machineInfo, ∃ (n : Word) (machineInfo' : MachineInfo),
    initMachineInfo machineCode (some area) machineInfo = .ok (n, machineInfo') ∧
      (∀ ipid, Denotes area (praseMachineCode machineCode) ipid → area.HasNetItem ipid →
        0 < CInt.toInt n ∧ ∃ i, (area.netItem i).IPID = ipid.setWidth 32 ∧
          machineInfo'.machineIPInfo = machineIPInfoOf (area.netItem i) n) ∧
      ((∀ ipid, Denotes area (praseMachineCode machineCode) ipid → ¬ area.HasNetItem ipid) →
        n = 0 ∧ machineInfo' = machineInfo)

/-- The device is in building 0 of a range that ends at 0, which the searches with area index 1 pass
over. -/
def BuildingDevice.PassedOver (area : Area) (d : BuildingDevice) : Prop :=
  ∃ build ∈ area.buildList, build.Contains d.build ∧ build.buildEnd.toNat = 0

instance (area : Area) (d : BuildingDevice) : Decidable (d.PassedOver area) :=
  inferInstanceAs (Decidable (∃ build ∈ area.buildList, _))

/-- The contract can be met for the device: its subnet has a net item, its place is a positive
`int`, and it does not have index 0. A device that the search passes over is refused if there is
another building after it, which is right if its subnet has no net item. -/
def Device.Reported (area : Area) (ipid : UChar) : Device → Prop
  | .building d =>
    if d.PassedOver area then 2 ≤ area.buildList.length ∧ ¬ area.HasNetItem ipid
    else area.HasNetItem ipid ∧ 0 < (d.place area ipid : ℤ).bmod (2 ^ 32)
  | .area g sub => 1 ≤ sub ∧ area.HasNetItem ipid ∧ 0 < (guardPlace area g sub : ℤ).bmod (2 ^ 32)

/-! ### Refused and accepted codes -/

section Cases

variable {area : Area} {machineCode : ULongLong} {ipid : UChar}

/-- A refused code meets the contract unless it denotes a device with a net item. -/
theorem errorContract_of_refused
    (hinit : ∀ machineInfo, initMachineInfo (R := Word) machineCode (some area) machineInfo =
      .ok (0, machineInfo)) :
    ErrorContract area machineCode ↔
      ∀ ipid, Denotes area (praseMachineCode machineCode) ipid → ¬ area.HasNetItem ipid := by
  constructor
  · intro hcontract ipid hden hitem
    obtain ⟨n, info', hok, hpos, -⟩ := hcontract ⟨0, 0, 0, 0, ⟨0, 0, 0⟩⟩
    rw [hinit] at hok
    cases hok
    exact absurd (hpos ipid hden hitem).1 (lt_irrefl _)
  · intro hnone info
    exact ⟨0, info, hinit info, fun ipid hden hitem ↦ absurd hitem (hnone ipid hden),
      fun _ ↦ ⟨rfl, rfl⟩⟩

/-- Net items are searched for a byte, so the one that `calculationIP` takes has the device's
`IPID`. -/
theorem Area.HasNetItem.exists_netItemOf (hitem : area.HasNetItem ipid) :
    ∃ i, area.netItemOf (ipid.setWidth 32) = some (area.netItem i) ∧
      (area.netItem i).IPID = ipid.setWidth 32 := by
  rcases hn : area.netItemOf (ipid.setWidth 32) with _ | item
  · obtain ⟨i, hi⟩ := hitem
    exact absurd hi (Area.netItemOf_eq_none_iff.1 hn i)
  · obtain ⟨⟨i, rfl⟩, hi⟩ := Area.netItemOf_eq_some hn
    exact ⟨i, rfl, hi⟩

/-- The code itself is written once the switch has passed, so 0 comes too late. -/
theorem not_errorContract_of_written {n : Word} {machineInfo' : MachineInfo → MachineInfo}
    (hinit : ∀ machineInfo, initMachineInfo machineCode (some area) machineInfo =
      .ok (n, machineInfo' machineInfo))
    (hwritten : ∀ machineInfo, (machineInfo' machineInfo).machineCode = machineCode)
    (hnone : ∀ ipid, Denotes area (praseMachineCode machineCode) ipid → ¬ area.HasNetItem ipid) :
    ¬ ErrorContract area machineCode := by
  intro hcontract
  obtain ⟨n', info', hok, -, hzero⟩ := hcontract ⟨0, 0, 0, machineCode + 1#64, ⟨0, 0, 0⟩⟩
  rw [hinit] at hok
  cases hok
  have hcode := congrArg (fun info : MachineInfo ↦ info.machineCode.toNat) (hzero hnone).2
  simp only [hwritten, BitVec.toNat_add, BitVec.toNat_ofNat] at hcode
  omega

/-- **An accepted code** that is written with its subnet's `IPID` meets the contract exactly for a
device with index 1 or more, a net item and a positive number. -/
theorem errorContract_of_accepted (ipid : UChar) {n : Word}
    {machineInfo' : MachineInfo → MachineInfo}
    (hinit : ∀ machineInfo, initMachineInfo machineCode (some area) machineInfo =
      .ok (n, planAddress area n (machineInfo' machineInfo)))
    (hipid : ∀ machineInfo, (machineInfo' machineInfo).ipid = ipid)
    (hwritten : ∀ machineInfo, (machineInfo' machineInfo).machineCode = machineCode)
    (hden : ∀ ipid', Denotes area (praseMachineCode machineCode) ipid' ↔
      1 ≤ (praseMachineCode machineCode).subMachineIndex.toNat ∧ ipid' = ipid) :
    ErrorContract area machineCode ↔
      1 ≤ (praseMachineCode machineCode).subMachineIndex.toNat ∧ area.HasNetItem ipid ∧
        0 < CInt.toInt n := by
  constructor
  · intro hcontract
    have hdevice : ¬ ∀ ipid', Denotes area (praseMachineCode machineCode) ipid' →
        ¬ area.HasNetItem ipid' := fun hnone ↦
      not_errorContract_of_written hinit hwritten hnone hcontract
    push Not at hdevice
    obtain ⟨ipid', hd, hitem⟩ := hdevice
    obtain ⟨n', info', hok, hpos, -⟩ := hcontract ⟨0, 0, 0, 0, ⟨0, 0, 0⟩⟩
    rw [hinit] at hok
    cases hok
    obtain ⟨hsub, rfl⟩ := (hden ipid').1 hd
    exact ⟨hsub, hitem, (hpos _ hd hitem).1⟩
  · rintro ⟨hsub, hitem, hpos⟩ info
    refine ⟨n, _, hinit info, fun ipid' hd _ ↦ ⟨hpos, ?_⟩, fun hnone ↦ ?_⟩
    · obtain ⟨-, rfl⟩ := (hden ipid').1 hd
      obtain ⟨i, hi, hi'⟩ := hitem.exists_netItemOf
      refine ⟨i, hi', ?_⟩
      simp only [planAddress, calculationIP_eq, hipid, hi, if_pos hpos]
    · exact absurd hitem (hnone ipid ((hden ipid).2 ⟨hsub, rfl⟩))

end Cases

/-! ### Building devices -/

section Building

variable {area : Area} {machineCode : ULongLong} {ipid : UChar} {type : DeviceType}
  {x : CellDevice} {d : BuildingDevice} {build : Build} {machineInfo : MachineInfo}

/-- A configured device has an index from 1. -/
theorem one_le_of_configured {c : CodeFields} {cell : Cell} (hx : cellDeviceOf type c = some x)
    (hconf : x.Configured cell) : 1 ≤ c.subMachineIndex.toNat := by
  cases type <;> cases hx <;> simp only [CellDevice.Configured] at hconf <;> omega

theorem denotes_building {c : CodeFields} (hdev : deviceOf c = some (.building d)) :
    Denotes area c ipid ↔ d ∈ configuredDevices area ipid := by
  constructor
  · rintro ⟨-, d', hdev', hd⟩
    rw [hdev] at hdev'
    cases hdev'
    exact hd
  · intro hd
    refine ⟨?_, .building d, hdev, hd⟩
    obtain ⟨type, x, -, hx, rfl⟩ := exists_of_deviceOf_building hdev
    obtain ⟨-, -, -, cell, -, -, hconf⟩ := hd
    exact one_le_of_configured hx hconf

/-- A building device is in one subnet only. -/
theorem mem_configuredDevices_iff (h : area.RangesOrdered) (hmem : build ∈ area.buildList)
    (hd : d.ConfiguredIn build) : d ∈ configuredDevices area ipid ↔ ipid = build.IPID := by
  constructor
  · rintro ⟨b, hb, hd'⟩
    obtain ⟨hmem', rfl⟩ := Area.mem_subnet.1 hb
    rw [h.builds.unique hmem' hmem hd'.1 hd.1]
  · rintro rfl
    exact ⟨build, Area.mem_subnet.2 ⟨hmem, rfl⟩, hd⟩

/-- A building device that is not configured is refused. -/
theorem checkBuildingDevice_of_not_configured {c : CodeFields} (h : area.RangesOrdered)
    (hne : area.buildList ≠ []) (hcells : ∀ b ∈ area.buildList, b.model.cellList ≠ [])
    (hx : cellDeviceOf type c = some x)
    (hnot : ∀ b ∈ area.buildList, ¬ (placedDevice c x).ConfiguredIn b) :
    checkBuildingDevice type c area = .ok false := by
  rcases hs : searchBuild c none area.buildList with _ | b
  · exact absurd hs (searchBuild_ne_none (Or.inl hne))
  · have hmem : b ∈ area.buildList := (mem_of_searchBuild hs).resolve_right (by simp)
    by_cases hb : b.Contains c.buildIndex.toNat
    · have hcell : ¬ (placedDevice c x).ConfiguredCell b.model.cellList := fun hc ↦
        hnot b hmem ⟨hb, hc⟩
      rw [checkBuildingDevice_of_search hs hb (h.cells b hmem) (hcells b hmem) hx,
        decide_eq_false hcell]
    · have hout : c.buildIndex.toNat < b.buildBegin.toNat ∨
          c.buildIndex.toNat > b.buildEnd.toNat := by
        rw [Build.Contains] at hb
        omega
      simp only [checkBuildingDevice, hs, if_pos hout]

theorem planAddress_zero : planAddress area (0 : Word) machineInfo = machineInfo := by
  have hpos : ¬ 0 < CInt.toInt (0 : Word) := by decide
  simp only [planAddress, calculationIP_eq, if_neg hpos]
  split <;> rfl

section PassedOver

variable (htype : DeviceType.ofValue (praseMachineCode machineCode).machineIndex = some type)
  (hx : cellDeviceOf type (praseMachineCode machineCode) = some x)
  (hb : build.Contains (praseMachineCode machineCode).buildIndex.toNat)
  (ha : ¬ (praseMachineCode machineCode).areaIndex.toNat ≤ build.buildEnd.toNat)
include htype hx hb ha

/-- Without another building after it, a building that is passed over is still the one the search is
left on: its devices are accepted, with the devices of the buildings before it as number and the
`IPID` of the call before. -/
theorem initMachineInfo_of_passedOver_end {l₁ : List Build} (hlist : area.buildList = l₁ ++ [build])
    (h : area.RangesOrdered)
    (hd : (placedDevice (praseMachineCode machineCode) x).ConfiguredIn build) :
    initMachineInfo machineCode (some area) machineInfo =
      .ok ((((l₁.filter (·.IPID = machineInfo.ipid)).map buildRangeMachineNumber).sum : Word),
        planAddress area
          (((l₁.filter (·.IPID = machineInfo.ipid)).map buildRangeMachineNumber).sum : Word)
          { machineInfo with machineCode := machineCode }) := by
  have hmem : build ∈ area.buildList := hlist ▸ List.mem_append_right _ List.mem_cons_self
  obtain ⟨hl₁, -⟩ := (hlist ▸ h.builds).around l₁ hb
  have hsearch : searchBuild (praseMachineCode machineCode) none area.buildList = some build := by
    rw [hlist, searchBuild_of_contains hl₁ hb (by simp), if_neg ha]
    rfl
  have hcells : build.model.cellList ≠ [] := by
    obtain ⟨-, cell, hcell, -⟩ := hd
    exact List.ne_nil_of_mem hcell
  have hcheck : checkParameters (praseMachineCode machineCode) area = .ok true := by
    rw [checkParameters_building htype hx,
      checkBuildingDevice_of_search hsearch hb (h.cells build hmem) hcells hx,
      decide_eq_true hd.2]
  have hpast : ¬ (praseMachineCode machineCode).buildIndex.toNat > build.buildEnd.toNat :=
    Nat.not_lt.2 hb.2
  have hipid : searchIpid (praseMachineCode machineCode) machineInfo.ipid (l₁ ++ [build]) =
      machineInfo.ipid := by
    rw [searchIpid_append _ hl₁, searchIpid, if_neg hpast, if_neg fun hand : _ ∧ _ ↦ ha hand.2]
    rfl
  have hnumber : numberBuildingDevice (R := Word) type (praseMachineCode machineCode) area
      { machineInfo with machineCode := machineCode } =
        (((l₁.filter (·.IPID = machineInfo.ipid)).map buildRangeMachineNumber).sum,
          { machineInfo with machineCode := machineCode }) := by
    rw [numberBuildingDevice, hlist, hipid, numberBuilds_append _ hl₁, zero_add]
    simp only [numberBuilds, if_neg hpast, if_neg fun hand : _ ∧ _ ↦ ha hand.2, ite_self]
  rw [initMachineInfo_of_accepted hcheck, numberDevice_building htype hx, hnumber]

/-- If it is the only building, the number is 0 and there is no address. -/
theorem initMachineInfo_of_passedOver_last (hlist : area.buildList = [build])
    (h : area.RangesOrdered)
    (hd : (placedDevice (praseMachineCode machineCode) x).ConfiguredIn build) :
    initMachineInfo machineCode (some area) machineInfo =
      .ok ((0 : Word), { machineInfo with machineCode := machineCode }) := by
  have hlist' : area.buildList = [] ++ [build] := hlist
  rw [initMachineInfo_of_passedOver_end htype hx hb ha hlist' h hd, List.filter_nil, List.map_nil,
    List.sum_nil, planAddress_zero]

/-- With another building after it, the search goes on to that one, and the code is refused. -/
theorem initMachineInfo_of_passedOver_next {l₁ : List Build} {next : Build} {rest : List Build}
    (hlist : area.buildList = l₁ ++ build :: next :: rest) (h : area.RangesOrdered) :
    initMachineInfo (R := Word) machineCode (some area) machineInfo = .ok (0, machineInfo) := by
  apply initMachineInfo_of_refused
  rw [checkParameters_building htype hx]
  have hbuilds := h.builds
  rw [hlist] at hbuilds
  obtain ⟨hl₁, hlater⟩ := hbuilds.around l₁ hb
  have hs : searchBuild (praseMachineCode machineCode) none (l₁ ++ build :: next :: rest) = _ :=
    searchBuild_of_contains hl₁ hb fun b hmem ↦ ⟨hlater b hmem, hbuilds.lo_le_hi b
      (List.mem_append_right _ (List.mem_cons_of_mem _ hmem))⟩
  rw [if_neg ha, ← hlist] at hs
  have hlt := hlater next List.mem_cons_self
  simp only [checkBuildingDevice, hs, List.headD_cons, if_pos (Or.inl hlt)]

end PassedOver

end Building

/-! ### When the contract holds -/

section Contract

variable {area : Area} {machineCode : ULongLong}

theorem errorContract_area_iff {g : Fin 3} {sub : ℕ}
    (hdev : deviceOf (praseMachineCode machineCode) = some (.area g sub)) :
    ErrorContract area machineCode ↔
      ((Device.area g sub).Configured area (area.guard g).IPID →
        (Device.area g sub).Reported area (area.guard g).IPID) := by
  obtain ⟨type, htype, hg, rfl⟩ := exists_of_deviceOf_area hdev
  have hconf : ∀ ipid, Denotes area (praseMachineCode machineCode) ipid ↔
      1 ≤ (praseMachineCode machineCode).subMachineIndex.toNat ∧
        (Device.area g (praseMachineCode machineCode).subMachineIndex.toNat).Configured area
          ipid := by
    intro ipid
    constructor
    · rintro ⟨hsub, d, hd, hconf⟩
      rw [hdev] at hd
      cases hd
      exact ⟨hsub, hconf⟩
    · exact fun hd ↦ ⟨hd.1, _, hdev, hd.2⟩
  by_cases hin : (area.guard g).indexBegin.toNat ≤
      (praseMachineCode machineCode).subMachineIndex.toNat ∧
        (praseMachineCode machineCode).subMachineIndex.toNat ≤ (area.guard g).indexEnd.toNat
  · have hinit (machineInfo : MachineInfo) :
        initMachineInfo (R := Word) machineCode (some area) machineInfo = _ :=
      initMachineInfo_guard htype hg
    simp only [if_pos hin] at hinit
    rw [errorContract_of_accepted (area.guard g).IPID hinit (fun _ ↦ rfl) (fun _ ↦ rfl)
      fun ipid ↦ ?_, ← cast_guardPlace, toInt_word_cast]
    · exact ⟨fun hrep _ ↦ hrep, fun hrep ↦ hrep ⟨rfl, hin⟩⟩
    · rw [hconf]
      exact and_congr_right fun _ ↦ ⟨fun hd ↦ hd.1.symm, fun hip ↦ ⟨hip.symm, hin⟩⟩
  · rw [errorContract_of_refused fun info ↦ by rw [initMachineInfo_guard htype hg, if_neg hin]]
    exact ⟨fun _ hd ↦ absurd hd.2 hin, fun _ ipid hd ↦ absurd ((hconf ipid).1 hd).2.2 hin⟩

section Building

variable {type : DeviceType} {x : CellDevice} {build : Build} {d : BuildingDevice}
  (htype : DeviceType.ofValue (praseMachineCode machineCode).machineIndex = some type)
  (hx : cellDeviceOf type (praseMachineCode machineCode) = some x)
  (hplaced : placedDevice (praseMachineCode machineCode) x = d)
  (hden : ∀ ipid, Denotes area (praseMachineCode machineCode) ipid ↔
    d ∈ configuredDevices area ipid)
  (h : area.RangesOrdered) (harea : (praseMachineCode machineCode).areaIndex.toNat = 1)
include htype hx hplaced hden h

/-- A device that is not configured is refused, as it should be. -/
theorem errorContract_of_not_configured (hne : area.buildList ≠ [])
    (hcells : ∀ b ∈ area.buildList, b.model.cellList ≠ [])
    (hd : ∀ build ∈ area.buildList, ¬ d.ConfiguredIn build) : ErrorContract area machineCode := by
  rw [errorContract_of_refused fun info ↦ initMachineInfo_of_refused ?_]
  · intro ipid hd'
    obtain ⟨b, hb, hconf⟩ := (hden ipid).1 hd'
    exact absurd hconf (hd b (Area.mem_subnet.1 hb).1)
  · rw [checkParameters_building htype hx, checkBuildingDevice_of_not_configured h hne hcells hx]
    exact fun b hb hd' ↦ hd b hb (hplaced ▸ hd')

include harea

/-- A configured device of building 0 that the search passes over meets the contract exactly if it
is refused, and rightly so. -/
theorem errorContract_of_passedOver (hmem : build ∈ area.buildList) (hd : d.ConfiguredIn build)
    (hend : build.buildEnd.toNat = 0) :
    ErrorContract area machineCode ↔
      2 ≤ area.buildList.length ∧ ¬ area.HasNetItem build.IPID := by
  have hmemd (ipid : UChar) : d ∈ configuredDevices area ipid ↔ _ :=
    mem_configuredDevices_iff h hmem hd
  have hb : build.Contains (praseMachineCode machineCode).buildIndex.toNat := by
    rw [← hplaced] at hd
    exact hd.1
  have ha : ¬ (praseMachineCode machineCode).areaIndex.toNat ≤ build.buildEnd.toNat := by omega
  -- a range that ends at 0 is the first one
  obtain ⟨l₁, l₂, hl, hl₁, -⟩ := h.split_build hmem hb
  obtain rfl : l₁ = [] := by
    rw [List.eq_nil_iff_forall_not_mem]
    intro b hb'
    have hlt := hl₁ b hb'
    have hle := hb.2
    omega
  cases l₂ with
  | nil =>
    have hinit (machineInfo : MachineInfo) :
        initMachineInfo (R := Word) machineCode (some area) machineInfo = _ :=
      initMachineInfo_of_passedOver_last htype hx hb ha hl h (hplaced ▸ hd)
    have hlen : ¬ 2 ≤ area.buildList.length := by simp [hl]
    refine ⟨fun hcontract ↦ ?_, fun hrep ↦ absurd hrep.1 hlen⟩
    -- it is accepted with number 0, which is wrong with a net item and without one
    by_cases hitem : area.HasNetItem build.IPID
    · obtain ⟨n, info', hok, hpos, -⟩ := hcontract ⟨0, 0, 0, 0, ⟨0, 0, 0⟩⟩
      rw [hinit] at hok
      cases hok
      exact absurd (hpos _ ((hden _).2 ((hmemd _).2 rfl)) hitem).1 (lt_irrefl _)
    · refine absurd hcontract
        (not_errorContract_of_written hinit (fun _ ↦ rfl) fun ipid hd' ↦ ?_)
      rwa [(hmemd ipid).1 ((hden ipid).1 hd')]
  | cons next rest =>
    have hinit (machineInfo : MachineInfo) :
        initMachineInfo (R := Word) machineCode (some area) machineInfo = _ :=
      initMachineInfo_of_passedOver_next htype hx hb ha hl h
    have hlen : 2 ≤ area.buildList.length := by simp [hl]
    rw [errorContract_of_refused hinit]
    simp only [hden, hmemd, forall_eq]
    exact ⟨fun hitem ↦ ⟨hlen, hitem⟩, fun hrep ↦ hrep.2⟩

/-- A configured device that the search finds meets the contract exactly if it has an address and
its place is a positive `int`. -/
theorem errorContract_of_found (hmem : build ∈ area.buildList) (hd : d.ConfiguredIn build)
    (hend : build.buildEnd.toNat ≠ 0) :
    ErrorContract area machineCode ↔
      area.HasNetItem build.IPID ∧ 0 < (d.place area build.IPID : ℤ).bmod (2 ^ 32) := by
  have hb : build.Contains (praseMachineCode machineCode).buildIndex.toNat := by
    rw [← hplaced] at hd
    exact hd.1
  have ha : (praseMachineCode machineCode).areaIndex.toNat ≤ build.buildEnd.toNat := by omega
  have hin := hd
  rw [← hplaced] at hin
  obtain ⟨-, cell, hcell, hc, hconf⟩ := hin
  have hsub := one_le_of_configured hx hconf
  have hinit (machineInfo : MachineInfo) :
      initMachineInfo (R := Word) machineCode (some area) machineInfo = _ :=
    initMachineInfo_building htype hx h hmem hb ha hcell hc hconf
  rw [errorContract_of_accepted build.IPID hinit (fun _ ↦ rfl) (fun _ ↦ rfl)
    fun ipid ↦ ?_, ← cast_place, toInt_word_cast, hplaced]
  · exact ⟨fun hrep ↦ hrep.2, fun hrep ↦ ⟨hsub, hrep⟩⟩
  · rw [hden, mem_configuredDevices_iff h hmem hd]
    exact ⟨fun hip ↦ ⟨hsub, hip⟩, fun hip ↦ hip.2⟩

end Building

theorem errorContract_building_iff (h : area.RangesOrdered) (hne : area.buildList ≠ [])
    (hcells : ∀ b ∈ area.buildList, b.model.cellList ≠ [])
    (harea : (praseMachineCode machineCode).areaIndex.toNat = 1) {d : BuildingDevice}
    (hdev : deviceOf (praseMachineCode machineCode) = some (.building d)) :
    ErrorContract area machineCode ↔
      ∀ ipid, d ∈ configuredDevices area ipid → (Device.building d).Reported area ipid := by
  have hden (ipid : UChar) : Denotes area (praseMachineCode machineCode) ipid ↔ _ :=
    denotes_building hdev
  obtain ⟨type, x, htype, hx, hplaced⟩ := exists_of_deviceOf_building hdev
  by_cases hd : ∃ build ∈ area.buildList, d.ConfiguredIn build
  · obtain ⟨build, hmem, hd⟩ := hd
    have hmemd (ipid : UChar) : d ∈ configuredDevices area ipid ↔ _ :=
      mem_configuredDevices_iff h hmem hd
    have hpassed : d.PassedOver area ↔ build.buildEnd.toNat = 0 := by
      constructor
      · rintro ⟨b, hmem', hb', hend⟩
        rwa [h.builds.unique hmem hmem' hd.1 hb']
      · exact fun hend ↦ ⟨build, hmem, hd.1, hend⟩
    simp only [hmemd, forall_eq, Device.Reported, hpassed]
    by_cases hend : build.buildEnd.toNat = 0
    · rw [if_pos hend]
      exact errorContract_of_passedOver htype hx hplaced hden h harea hmem hd hend
    · rw [if_neg hend]
      exact errorContract_of_found htype hx hplaced hden h harea hmem hd hend
  · have hnot : ∀ build ∈ area.buildList, ¬ d.ConfiguredIn build := fun b hb hd' ↦
      hd ⟨b, hb, hd'⟩
    have hcontract := errorContract_of_not_configured htype hx hplaced hden h hne hcells hnot
    exact ⟨fun _ ipid ⟨b, hb, hd'⟩ ↦ absurd hd' (hnot b (Area.mem_subnet.1 hb).1),
      fun _ ↦ hcontract⟩

end Contract

/-- **The error contract** holds for a code exactly when every configured device that the code
denotes can be reported: a device of the area has index 1 or more, the subnet has a net item and the
place is a positive `int`; or the search passes over a building 0 that has no net item. -/
theorem errorContract_iff {area : Area} {machineCode : ULongLong} (h : area.RangesOrdered)
    (hne : area.buildList ≠ []) (hcells : ∀ b ∈ area.buildList, b.model.cellList ≠ [])
    (harea : (praseMachineCode machineCode).areaIndex.toNat = 1) :
    ErrorContract area machineCode ↔
      ∀ d ipid, deviceOf (praseMachineCode machineCode) = some d → d.Configured area ipid →
        d.Reported area ipid := by
  rcases hdev : deviceOf (praseMachineCode machineCode) with _ | d
  · rw [errorContract_of_refused fun info ↦ initMachineInfo_of_no_device hdev]
    refine ⟨fun _ d ipid hd ↦ by simp at hd, fun _ ipid hden ↦ ?_⟩
    obtain ⟨-, d, hd, -⟩ := hden
    simp [hdev] at hd
  · have hsome : ∀ {P : Device → Prop}, (∀ d', some d = some d' → P d') ↔ P d := by simp
    simp only [forall_comm (α := UChar), hsome]
    cases d with
    | building d => exact errorContract_building_iff h hne hcells harea hdev
    | area g sub =>
      rw [errorContract_area_iff hdev]
      refine ⟨fun hrep ipid hd ↦ ?_, fun hrep hd ↦ hrep _ hd⟩
      obtain rfl := hd.1
      exact hrep hd

theorem deviceOf_sample : deviceOf (praseMachineCode 0x0010020010201011#64) =
    some (.building ⟨2, 1, .indoor 2 1 1⟩) := by decide

/-- The contract holds for the indoor station of building 2, cell 1, floor 2, room 1. -/
theorem errorContract_sample : ErrorContract sampleArea 0x0010020010201011#64 := by
  refine (errorContract_iff sampleArea_ordered.toRangesOrdered (by decide) (by decide)
    (by decide)).2 fun d ipid hdev hconf ↦ ?_
  rw [deviceOf_sample] at hdev
  cases hdev
  obtain ⟨b, hb, -⟩ := hconf
  obtain ⟨hmem, rfl⟩ := Area.mem_subnet.1 hb
  have hipid : ∀ b ∈ sampleArea.buildList, b.IPID = 1#8 := by decide
  rw [hipid b hmem, Device.Reported, if_neg (by decide)]
  decide

/-- The sample estate without a net item for `IPID` 1. -/
def sampleAreaNoNet : Area :=
  { sampleArea with netItem := fun _ ↦ ⟨0, 0, 0, 0#32⟩ }

/-- Without a net item, the same indoor station still gets number 33 and no address. -/
theorem errorContract_sampleAreaNoNet_false :
    sampleAreaNoNet.RangesOrdered ∧ ¬ ErrorContract sampleAreaNoNet 0x0010020010201011#64 := by
  refine ⟨⟨by decide, by decide⟩, fun hcontract ↦ ?_⟩
  obtain ⟨n, info, hok, -, hzero⟩ := hcontract ⟨0, 0, 0, 0, ⟨0, 0, 0⟩⟩
  have hinit : initMachineInfo 0x0010020010201011#64 (some sampleAreaNoNet)
      ⟨0, 0, 0, 0, ⟨0, 0, 0⟩⟩ =
        .ok ((33 : Word), ⟨1, 1, 1, 0x0010020010201011#64, ⟨0, 0, 0⟩⟩) := rfl
  have hitem : ∀ b ∈ sampleAreaNoNet.buildList, ¬ sampleAreaNoNet.HasNetItem b.IPID := by decide
  have hnone : ∀ ipid, Denotes sampleAreaNoNet (praseMachineCode 0x0010020010201011#64) ipid →
      ¬ sampleAreaNoNet.HasNetItem ipid := by
    rintro ipid ⟨-, d, hdev, hconf⟩
    rw [deviceOf_sample] at hdev
    cases hdev
    obtain ⟨b, hb, -⟩ := hconf
    obtain ⟨hmem, rfl⟩ := Area.mem_subnet.1 hb
    exact hitem b hmem
  rw [hinit] at hok
  cases hok
  exact absurd (hzero hnone).1 (by decide)

end DoorIntercom
