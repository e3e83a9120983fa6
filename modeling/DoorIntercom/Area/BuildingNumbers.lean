import DoorIntercom.Area.InitSpec

/-!
# Machine numbers of building devices

The devices that a well-formed configuration puts into the buildings of one subnet are numbered
one-to-one by `1 .. N`, `N` being the sum of the device counts of those buildings, and
`initMachineInfo` returns exactly that numbering in exact integers. On the machine it returns the
number modulo `2 ^ 32` (`WordNumbers`), since every operation of the accumulation is a ring
operation.
-/

namespace DoorIntercom

/-! ### Codes of configured devices -/

namespace CellDevice

/-- The device type of a cell's device. -/
def type : CellDevice → DeviceType
  | outDoor _ => .cellDoor
  | houseDoor _ _ _ => .houseDoor
  | indoor _ _ _ => .room

/-- The floor in the device's code; cell doors are given floor 1. -/
def floor : CellDevice → ℕ
  | outDoor _ => 1
  | houseDoor floor _ _ => floor
  | indoor floor _ _ => floor

/-- The room in the device's code; cell doors are given room 1. -/
def door : CellDevice → ℕ
  | outDoor _ => 1
  | houseDoor _ door _ => door
  | indoor _ door _ => door

def sub : CellDevice → ℕ
  | outDoor sub => sub
  | houseDoor _ _ sub => sub
  | indoor _ _ sub => sub

/-- The indexes of a configured device are bytes. -/
theorem lt_of_configured {cell : Cell} {x : CellDevice} (h : x.Configured cell) :
    x.floor < 2 ^ 8 ∧ x.door < 2 ^ 8 ∧ x.sub < 2 ^ 8 := by
  have hfloor := cell.floorEnd.isLt
  have hroom := cell.roomEnd.isLt
  have hout := cell.outDoorCount.isLt
  have hsecond := cell.secondOutDoorCount.isLt
  have hin := cell.inDoorCount.isLt
  cases x <;> simp only [Configured, Cell.HasRoom, floor, door, sub] at h ⊢ <;> omega

end CellDevice

/-- The fields that address a device in area 1. -/
def BuildingDevice.fields (d : BuildingDevice) : CodeFields where
  machineIndex := d.device.type.value
  subMachineIndex := BitVec.ofNat 8 d.device.sub
  doorIndex := BitVec.ofNat 8 d.device.door
  floorIndex := BitVec.ofNat 8 d.device.floor
  cellIndex := BitVec.ofNat 32 d.cell
  buildIndex := BitVec.ofNat 32 d.build
  areaIndex := 1#32

theorem cellDeviceOf_fields {d : BuildingDevice} (hf : d.device.floor < 2 ^ 8)
    (hd : d.device.door < 2 ^ 8) (hs : d.device.sub < 2 ^ 8) :
    cellDeviceOf d.device.type d.fields = some d.device := by
  obtain ⟨b, n, x⟩ := d
  cases x <;> simp only [CellDevice.floor, CellDevice.door, CellDevice.sub] at hf hd hs <;>
    simp only [CellDevice.type, cellDeviceOf, BuildingDevice.fields, CellDevice.floor,
      CellDevice.door, CellDevice.sub, BitVec.toNat_ofNat, Nat.mod_eq_of_lt hf,
      Nat.mod_eq_of_lt hd, Nat.mod_eq_of_lt hs]

/-- Every configured device has a code in area 1. -/
theorem exists_code_of_configured {area : Area} {ipid : UChar} {d : BuildingDevice}
    (hd : d ∈ configuredDevices area ipid) :
    ∃ machineCode, (praseMachineCode machineCode).areaIndex.toNat = 1 ∧
      deviceOf (praseMachineCode machineCode) = some (.building d) := by
  obtain ⟨build, -, hbuild, cell, -, hcell, hdev⟩ := hd
  -- a configured index is a byte, so it fits into its field of the code
  have hb : d.build < 2 ^ 8 := lt_of_le_of_lt hbuild.2 build.buildEnd.isLt
  have hn : d.cell < 2 ^ 8 := lt_of_le_of_lt hcell.2 cell.cellEnd.isLt
  have hbuildIndex : d.fields.buildIndex.toNat = d.build := by
    rw [BuildingDevice.fields, BitVec.toNat_ofNat]
    omega
  have hcellIndex : d.fields.cellIndex.toNat = d.cell := by
    rw [BuildingDevice.fields, BitVec.toNat_ofNat]
    omega
  have hareaIndex : d.fields.areaIndex.toNat < 2 ^ 8 := by
    show (1#32).toNat < 2 ^ 8
    decide
  obtain ⟨hfloor, hdoor, hsub⟩ := CellDevice.lt_of_configured hdev
  obtain ⟨code, hcode⟩ := exists_praseMachineCode_eq (c := d.fields)
    ⟨DeviceType.value_lt _, by omega, by omega, hareaIndex⟩
  refine ⟨code, by rw [hcode]; rfl, ?_⟩
  have htype : DeviceType.ofValue (praseMachineCode code).machineIndex = some d.device.type := by
    rw [hcode]
    exact DeviceType.ofValue_value d.device.type
  have hx : cellDeviceOf d.device.type (praseMachineCode code) = some d.device := by
    rw [hcode]
    exact cellDeviceOf_fields hfloor hdoor hsub
  rw [deviceOf_building htype hx, placedDevice, hcode, hbuildIndex, hcellIndex]

/-! ### The returned number -/

/-- A code of a building device, read back. -/
theorem exists_of_deviceOf_building {c : CodeFields} {d : BuildingDevice}
    (h : deviceOf c = some (.building d)) :
    ∃ type x, DeviceType.ofValue c.machineIndex = some type ∧ cellDeviceOf type c = some x ∧
      placedDevice c x = d := by
  rw [deviceOf] at h
  obtain ⟨type, htype, hd⟩ := Option.bind_eq_some_iff.1 h
  refine ⟨type, ?_⟩
  rw [deviceOfType] at hd
  split at hd
  · cases hd
  · obtain ⟨x, hx, hd⟩ := Option.map_eq_some_iff.1 hd
    cases hd
    exact ⟨x, htype, hx, rfl⟩

section Number

variable {R : Type} [CommRing R] [CInt R] {area : Area} {ipid : UChar} {machineCode : ULongLong}
  {d : BuildingDevice}

/-- **The number of a configured building device** is its place in its subnet. -/
theorem initMachineInfo_of_configured (h : area.RangesOrdered)
    (hone : ∀ b ∈ area.buildList, 1 ≤ b.buildEnd.toNat)
    (harea : (praseMachineCode machineCode).areaIndex.toNat = 1)
    (hdev : deviceOf (praseMachineCode machineCode) = some (.building d))
    (hd : d ∈ configuredDevices area ipid) (machineInfo : MachineInfo) :
    ∃ machineInfo', machineInfo'.ipid = ipid ∧
      initMachineInfo (R := R) machineCode (some area) machineInfo =
        .ok (d.place area ipid, machineInfo') := by
  obtain ⟨type, x, htype, hx, rfl⟩ := exists_of_deviceOf_building hdev
  obtain ⟨build, hfilter, hbuild, cell, hcell, hc, hconf⟩ := hd
  obtain ⟨hmem, rfl⟩ := Area.mem_subnet.1 hfilter
  have ha : (praseMachineCode machineCode).areaIndex.toNat ≤ build.buildEnd.toNat :=
    harea ▸ hone build hmem
  exact ⟨_, rfl, initMachineInfo_building htype hx h hmem hbuild ha hcell hc hconf⟩

end Number

/-- **Numbering of building devices.** For every subnet, the place of a device is a bijection from
the configured devices onto `1 .. N`; every configured device has a code in area 1; and
`initMachineInfo` returns the place, in exact integers, for each such code. -/
theorem initMachineInfo_bijOn_devices {area : Area} (h : area.Ordered) (ipid : UChar) :
    Set.BijOn (BuildingDevice.place area ipid) (configuredDevices area ipid)
        {k : ℤ | 1 ≤ k ∧ k ≤ ((area.buildList.filter (·.IPID = ipid)).map fun b ↦
          ((b.buildEnd.toNat : ℤ) - b.buildBegin.toNat + 1) *
            calculationBuildMachineNumber b).sum} ∧
      (∀ d ∈ configuredDevices area ipid, ∃ machineCode,
        (praseMachineCode machineCode).areaIndex.toNat = 1 ∧
          deviceOf (praseMachineCode machineCode) = some (.building d)) ∧
      ∀ d ∈ configuredDevices area ipid, ∀ machineCode machineInfo,
        (praseMachineCode machineCode).areaIndex.toNat = 1 →
          deviceOf (praseMachineCode machineCode) = some (.building d) →
            ∃ machineInfo', initMachineInfo machineCode (some area) machineInfo =
              .ok ((d.place area ipid : ℤ), machineInfo') := by
  have hN : ((area.buildList.filter (·.IPID = ipid)).map fun b ↦
      ((b.buildEnd.toNat : ℤ) - b.buildBegin.toNat + 1) * calculationBuildMachineNumber b).sum =
        (area.subnetCount ipid : ℤ) := by
    rw [← h.subnetMachineNumber_eq, subnetMachineNumber_eq_sum]
    rfl
  refine ⟨?_, fun d hd ↦ exists_code_of_configured hd, fun d hd code info harea hdev ↦ ?_⟩
  · rw [hN]
    exact numbers_configured h ipid
  · obtain ⟨info', -, hinit⟩ := initMachineInfo_of_configured (R := ℤ) h.toRangesOrdered
      h.one_le_buildEnd harea hdev hd info
    exact ⟨info', hinit⟩

/-- In the sample estate, the numbers are 1 to 57, and the indoor station of building 2, cell 1,
floor 2, room 1 is number 33. -/
theorem initMachineInfo_bijOn_devices_sample :
    Set.BijOn (BuildingDevice.place sampleArea 1#8) (configuredDevices sampleArea 1#8)
        {k : ℤ | 1 ≤ k ∧ k ≤ 57} ∧
      ∃ machineInfo', initMachineInfo 0x0010020010201011#64 (some sampleArea)
        ⟨0, 0, 0, 0, ⟨0, 0, 0⟩⟩ = .ok ((33 : ℤ), machineInfo') :=
  ⟨(initMachineInfo_bijOn_devices sampleArea_ordered 1#8).1,
    (initMachineInfo_bijOn_devices sampleArea_ordered 1#8).2.2 ⟨2, 1, .indoor 2 1 1⟩
      ⟨sampleArea.buildList.head (by decide), by decide, by decide⟩ _ _ (by decide) (by decide)⟩

end DoorIntercom
