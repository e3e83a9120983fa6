import DoorIntercom.Area.ObjectMachineInfo

/-!
# Enumerated and accepted targets

A caller takes `num` and the code of the first target from `getObjectMachineInfo` and numbers the
targets by `initMachineInfo`, with sub-machine indexes `1 .. num`. The two functions agree on a
target type exactly when the cell in which the one counts has as many devices as the cell, floor and
room in which the other looks (`enumerationAgrees_iff`). They are different cells for a building
that is not the first one of its range (unless the range is the last one of the list) and for cell
indexes from 16 on; and for a second door, the floor and the room are not asked for when counting.
-/

namespace DoorIntercom

/-- `initMachineInfo` accepts the code: the number is not 0. -/
def Accepts (area : Area) (machineInfo : MachineInfo) (machineCode : ULongLong) : Prop :=
  ∃ (n : Word) (machineInfo' : MachineInfo),
    initMachineInfo machineCode (some area) machineInfo = .ok (n, machineInfo') ∧ n ≠ 0

/-- The code with another sub-machine index. -/
def withSubMachineIndex (machineCode : ULongLong) (sub : UChar) : ULongLong :=
  BitVec.ofNat 64
    (machineCode.toNat / 2 ^ 12 * 2 ^ 12 + sub.toNat * 2 ^ 4 + machineCode.toNat % 2 ^ 4)

/-- The accepted sub-machine indexes of the target are `1 .. num`. -/
def EnumerationAgrees (area : Area) (machineInfo : MachineInfo) (srcMachineCode : ULongLong)
    (type : DeviceType) : Prop :=
  ∀ dest num destMachineCode,
    getObjectMachineInfo dest srcMachineCode (some area) type = .ok (num, destMachineCode) →
      ∀ sub : UChar, Accepts area machineInfo (withSubMachineIndex destMachineCode sub) ↔
        1 ≤ sub.toNat ∧ (sub.toNat : ℤ) ≤ num

/-- The types of building devices. -/
def isBuildingType (type : DeviceType) : Bool :=
  type = .room || type = .cellDoor || type = .houseDoor

/-- The building-level targets of a source: a door does not call indoor stations. -/
def isTargetOf (source type : DeviceType) : Bool :=
  isBuildingType type && (type != .room || source = .room)

/-! ### When the two agree -/

/-- The device of a building type at a floor and a room. -/
def CellDevice.ofType (type : DeviceType) (floor door sub : ℕ) : CellDevice :=
  match type with
  | .cellDoor => .outDoor sub
  | .houseDoor => .houseDoor floor door sub
  | _ => .indoor floor door sub

/-- The devices of a type that exist at a cell number, floor and room: a cell door needs no room. -/
def configuredCount (type : DeviceType) (cellIndex floor door : ℕ) (cells : List Cell) : ℕ :=
  match cellAt cells cellIndex with
  | some cell =>
    if type = .cellDoor ∨ cell.HasRoom floor door then (subMachineCount type cell).toNat else 0
  | none => 0

/-- The devices of a type that are enumerated at a cell number: only an indoor station needs a
room. -/
def enumeratedCount (type : DeviceType) (cellIndex floor door : ℕ) (cells : List Cell) : ℕ :=
  match cellAt cells cellIndex with
  | some cell =>
    if type ≠ .room ∨ cell.HasRoom floor door then (subMachineCount type cell).toNat else 0
  | none => 0

/-- The target with sub-machine index `sub`, as the answered code denotes it. -/
def targetDevice (c : CodeFields) (type : DeviceType) (sub : ℕ) : BuildingDevice :=
  ⟨c.buildIndex.toNat, c.cellIndex.toNat % 2 ^ 4,
    .ofType type c.floorIndex.toNat c.doorIndex.toNat sub⟩

/-- The entry in which the targets of a source in `build` are enumerated, `rest` being the entries
after it. -/
def enumeratedBuild (c : CodeFields) (build : Build) (rest : List Build) : Build :=
  if c.buildIndex.toNat = build.buildBegin.toNat then build else rest.headD build

/-- The enumerated entry has as many devices at the cell index as the source's own one at its low
four bits, floor and room. The places of these are no multiple of `2 ^ 32`; or the last one is, and
is the one that is missing in the enumeration. -/
def CountsAgree (area : Area) (c : CodeFields) (type : DeviceType) : Prop :=
  ∃ l₁ build l₂, area.buildList = l₁ ++ build :: l₂ ∧ build.Contains c.buildIndex.toNat ∧
    let num := enumeratedCount type c.cellIndex.toNat c.floorIndex.toNat c.doorIndex.toNat
      (enumeratedBuild c build l₂).model.cellList
    let count := configuredCount type (c.cellIndex.toNat % 2 ^ 4) c.floorIndex.toNat
      c.doorIndex.toNat build.model.cellList
    let place : ℕ → ℤ := fun sub ↦ (targetDevice c type sub).place area build.IPID
    (num = count ∧ ∀ sub, 1 ≤ sub → sub ≤ count → place sub % 2 ^ 32 ≠ 0) ∨
      (num + 1 = count ∧ place count % 2 ^ 32 = 0)

/-! ### The answered code -/

section Answer

variable {c : CodeFields} {type source : DeviceType} {area : Area}

/-- The fields of a code with another sub-machine index. -/
theorem praseMachineCode_withSubMachineIndex (machineCode : ULongLong) (sub : UChar) :
    praseMachineCode (withSubMachineIndex machineCode sub) =
      { praseMachineCode machineCode with subMachineIndex := sub } := by
  have hcode := machineCode.isLt
  have hsub := sub.isLt
  have hval : (withSubMachineIndex machineCode sub).toNat =
      machineCode.toNat / 2 ^ 12 * 2 ^ 12 + sub.toNat * 2 ^ 4 + machineCode.toNat % 2 ^ 4 := by
    rw [withSubMachineIndex, BitVec.toNat_ofNat]
    omega
  apply CodeFields.ext_toNat <;> simp <;> rw [hval] <;> omega

theorem cellDeviceOf_eq (htype : isBuildingType type) :
    cellDeviceOf type c = some (.ofType type c.floorIndex.toNat c.doorIndex.toNat
      c.subMachineIndex.toNat) := by
  cases type <;> first | rfl | cases htype

/-- `num` is the enumerated count. Only the floor and the room of a cell door change. -/
theorem countObjects_spec (htype : isBuildingType type) (cells : List Cell) :
    (countObjects type c cells).1 =
        enumeratedCount type c.cellIndex.toNat c.floorIndex.toNat c.doorIndex.toNat cells ∧
      ∃ floor door, (countObjects type c cells).2 =
          { c with floorIndex := floor, doorIndex := door } ∧
        ∀ sub, CellDevice.ofType type floor.toNat door.toNat sub =
          .ofType type c.floorIndex.toNat c.doorIndex.toNat sub := by
  rw [countObjects_eq, enumeratedCount]
  rcases cellAt cells c.cellIndex.toNat with _ | cell
  · exact ⟨rfl, c.floorIndex, c.doorIndex, rfl, fun _ ↦ rfl⟩
  · cases type with
    | room =>
      refine ⟨?_, c.floorIndex, c.doorIndex, rfl, fun _ ↦ rfl⟩
      simp only [countInCell, Cell.HasRoom, subMachineCount, ne_eq, not_true_eq_false, false_or,
        Nat.cast_ite, Nat.cast_zero, and_assoc, ge_iff_le]
    | cellDoor => exact ⟨by simp [countInCell, subMachineCount], 1#8, 1#8, rfl, fun _ ↦ rfl⟩
    | houseDoor =>
      exact ⟨by simp [countInCell, subMachineCount], c.floorIndex, c.doorIndex, rfl, fun _ ↦ rfl⟩
    | monitor => cases htype
    | guard => cases htype
    | areaDoor => cases htype
    | manager => cases htype

/-- **The answer for a building-level target**: the enumerated count, and the code of its first
device, up to the high byte of the cell index. -/
theorem getObjectMachineInfo_building (dest : ULongLong) {srcMachineCode : ULongLong}
    {build : Build} {l₁ l₂ : List Build} (hc : praseMachineCode srcMachineCode = c)
    (hsource : DeviceType.ofValue c.machineIndex = some source)
    (hbuilding : isBuildingType source) (htarget : isTargetOf source type)
    (hl : area.buildList = l₁ ++ build :: l₂)
    (hl₁ : ∀ b ∈ l₁, b.buildEnd.toNat < c.buildIndex.toNat)
    (hb : build.Contains c.buildIndex.toNat)
    (hl₂ : ∀ b ∈ l₂, c.buildIndex.toNat < b.buildBegin.toNat ∧
      b.buildBegin.toNat ≤ b.buildEnd.toNat) :
    ∃ destMachineCode floor door,
      getObjectMachineInfo dest srcMachineCode (some area) type =
        .ok ((enumeratedCount type c.cellIndex.toNat c.floorIndex.toNat c.doorIndex.toNat
          (enumeratedBuild c build l₂).model.cellList : ℕ), destMachineCode) ∧
      praseMachineCode destMachineCode =
        ⟨type.value, 1#8, door, floor, BitVec.ofNat 32 (c.cellIndex.toNat % 2 ^ 4), c.buildIndex,
          c.areaIndex⟩ ∧
      ∀ sub, CellDevice.ofType type floor.toNat door.toNat sub =
        .ofType type c.floorIndex.toNat c.doorIndex.toNat sub := by
  have htype : isBuildingType type := by
    cases type <;> first | rfl | cases htarget
  obtain ⟨hnum, floor, door, hfields, hof⟩ := countObjects_spec
    (c := { c with subMachineIndex := 1#8, machineIndex := type.value }) htype
    (enumeratedBuild c build l₂).model.cellList
  have hsearch : searchObjectBuild { c with subMachineIndex := 1#8, machineIndex := type.value }
      none area.buildList = some (enumeratedBuild c build l₂) := by
    rw [hl]
    exact searchObjectBuild_of_contains hl₁ hb hl₂
  have harea : isAreaType type = false := by
    cases type <;> first | rfl | cases htype
  have hguard : ¬ ((some source).any isAreaType &&
      (type = .room || type = .cellDoor || DeviceType.houseDoor.value != 0#8)) = true := by
    cases source <;> first | (cases hbuilding; done) | simp [isAreaType]
  have hdoor : ¬ ((some source = some DeviceType.cellDoor || some source = some .houseDoor) &&
      type = .room) = true := by
    cases type <;> cases source <;> first | (cases htarget; done) | simp
  refine ⟨generateMachineCode ⟨type.value, 1#8, door, floor, c.cellIndex, c.buildIndex,
    c.areaIndex⟩, floor, door, ?_, ?_, hof⟩
  · simp only [getObjectMachineInfo, hc, hsource, if_neg hguard, if_neg hdoor, harea, hsearch,
      Bool.false_eq_true, if_false, hnum, hfields]
  · have hfits := hc ▸ praseMachineCode_fits srcMachineCode
    exact praseMachineCode_generateMachineCode
      ⟨DeviceType.value_lt type, hfits.cellIndex, hfits.buildIndex, hfits.areaIndex⟩

end Answer

/-! ### Accepted codes -/

section Accepted

variable {area : Area} {machineCode : ULongLong} {machineInfo : MachineInfo} {type : DeviceType}
  {x : CellDevice} {build : Build}

/-- A code of a building is accepted when the building has the device, unless the place is 0 as an
`int`. -/
theorem accepts_iff_of_contains (h : area.RangesOrdered) (hmem : build ∈ area.buildList)
    (hb : build.Contains (praseMachineCode machineCode).buildIndex.toNat)
    (ha : (praseMachineCode machineCode).areaIndex.toNat ≤ build.buildEnd.toNat)
    (hne : build.model.cellList ≠ [])
    (htype : DeviceType.ofValue (praseMachineCode machineCode).machineIndex = some type)
    (hx : cellDeviceOf type (praseMachineCode machineCode) = some x) :
    Accepts area machineInfo machineCode ↔
      (placedDevice (praseMachineCode machineCode) x).ConfiguredCell build.model.cellList ∧
        ((placedDevice (praseMachineCode machineCode) x).place area build.IPID : ℤ) % 2 ^ 32 ≠
          0 := by
  by_cases hconf : (placedDevice (praseMachineCode machineCode) x).ConfiguredCell
      build.model.cellList
  · obtain ⟨cell, hcell, hc, hcellconf⟩ := id hconf
    have hinit : initMachineInfo (R := Word) machineCode (some area) machineInfo = _ :=
      initMachineInfo_building htype hx h hmem hb ha hcell hc hcellconf
    rw [← cast_place] at hinit
    constructor
    · rintro ⟨n, info', hok, hn⟩
      rw [hinit] at hok
      cases hok
      exact ⟨hconf, fun hz ↦ hn ((word_cast_eq_zero_iff _).2 hz)⟩
    · exact fun hn ↦ ⟨_, _, hinit, fun hz ↦ hn.2 ((word_cast_eq_zero_iff _).1 hz)⟩
  · refine ⟨?_, fun hacc ↦ absurd hacc.1 hconf⟩
    rintro ⟨n, info', hok, hn⟩
    have hcheck := checkParameters_of_ne_zero hok hn
    rw [checkParameters_building htype hx, checkBuildingDevice_of_contains h hmem hb ha hne hx,
      decide_eq_false hconf] at hcheck
    cases hcheck

/-- **An accepted building device** is configured in an entry that does not end at 0. -/
theorem Accepts.exists_build (h : area.RangesOrdered)
    (harea : (praseMachineCode machineCode).areaIndex.toNat = 1)
    (htype : DeviceType.ofValue (praseMachineCode machineCode).machineIndex = some type)
    (hx : cellDeviceOf type (praseMachineCode machineCode) = some x)
    (hacc : Accepts area machineInfo machineCode) :
    ∃ build ∈ area.buildList,
      (placedDevice (praseMachineCode machineCode) x).ConfiguredIn build ∧
        (praseMachineCode machineCode).areaIndex.toNat ≤ build.buildEnd.toNat := by
  obtain ⟨n, info', hok, hn⟩ := hacc
  have hcheck := checkParameters_of_ne_zero hok hn
  rw [checkParameters_building htype hx] at hcheck
  obtain ⟨build, hmem, -, hd⟩ := exists_of_checkBuildingDevice hx hcheck
  refine ⟨build, hmem, hd, ?_⟩
  by_contra ha
  obtain ⟨l₁, l₂, hl, hl₁, -⟩ := h.split_build hmem hd.1
  obtain rfl : l₁ = [] := by
    rw [List.eq_nil_iff_forall_not_mem]
    intro b hb'
    have hlt := hl₁ b hb'
    have hle : (praseMachineCode machineCode).buildIndex.toNat ≤ build.buildEnd.toNat := hd.1.2
    omega
  -- the number of a building that is passed over is 0
  cases l₂ with
  | nil =>
    rw [initMachineInfo_of_passedOver_last htype hx hd.1 ha hl h hd] at hok
    cases hok
    exact hn rfl
  | cons next rest =>
    rw [initMachineInfo_of_passedOver_next htype hx hd.1 ha hl h] at hok
    cases hok
    exact hn rfl

end Accepted

/-! ### The agreement -/

section Agreement

variable {c : CodeFields} {type : DeviceType} {cells : List Cell}

theorem cellAt_eq_some_iff {cell : Cell} {n : ℕ}
    (hcells : Increasing (fun c : Cell ↦ c.cellBegin.toNat) (fun c ↦ c.cellEnd.toNat) cells) :
    cellAt cells n = some cell ↔ cell ∈ cells ∧ cell.Contains n := by
  constructor
  · intro hat
    exact ⟨List.mem_of_find?_eq_some hat, by simpa [cellAt] using List.find?_some hat⟩
  · rintro ⟨hcell, hc⟩
    rcases hat : cellAt cells n with _ | cell'
    · exact absurd hc (of_decide_eq_false (by simpa using List.find?_eq_none.1 hat cell hcell))
    · have hc' : cell'.Contains n := by simpa [cellAt] using List.find?_some hat
      rw [hcells.unique (List.mem_of_find?_eq_some hat) hcell hc' hc]

/-- The target exists exactly for the sub-machine indexes up to the configured count. -/
theorem configured_targetDevice_iff (htype : isBuildingType type)
    (hcells : Increasing (fun c : Cell ↦ c.cellBegin.toNat) (fun c ↦ c.cellEnd.toNat) cells)
    (sub : ℕ) :
    (targetDevice c type sub).ConfiguredCell cells ↔
      1 ≤ sub ∧ sub ≤ configuredCount type (c.cellIndex.toNat % 2 ^ 4) c.floorIndex.toNat
        c.doorIndex.toNat cells := by
  have hconf : ∀ cell : Cell, (targetDevice c type sub).device.Configured cell ↔
      1 ≤ sub ∧ sub ≤ if type = .cellDoor ∨ cell.HasRoom c.floorIndex.toNat c.doorIndex.toNat then
        (subMachineCount type cell).toNat else 0 := by
    intro cell
    cases type with
    | room =>
      by_cases hroom : cell.HasRoom c.floorIndex.toNat c.doorIndex.toNat <;>
        simp [targetDevice, CellDevice.ofType, CellDevice.Configured, subMachineCount, hroom]
      omega
    | cellDoor => simp [targetDevice, CellDevice.ofType, CellDevice.Configured, subMachineCount]
    | houseDoor =>
      by_cases hroom : cell.HasRoom c.floorIndex.toNat c.doorIndex.toNat <;>
        simp [targetDevice, CellDevice.ofType, CellDevice.Configured, subMachineCount, hroom]
      omega
    | monitor => cases htype
    | guard => cases htype
    | areaDoor => cases htype
    | manager => cases htype
  rw [configuredCount]
  constructor
  · rintro ⟨cell, hcell, hc, hd⟩
    have hat : cellAt cells (c.cellIndex.toNat % 2 ^ 4) = some cell :=
      (cellAt_eq_some_iff hcells).2 ⟨hcell, hc⟩
    rw [hat]
    exact (hconf cell).1 hd
  · rcases hat : cellAt cells (c.cellIndex.toNat % 2 ^ 4) with _ | cell
    · intro hsub
      simp only [] at hsub
      omega
    · intro hsub
      obtain ⟨hcell, hc⟩ := (cellAt_eq_some_iff hcells).1 hat
      exact ⟨cell, hcell, hc, (hconf cell).2 hsub⟩

/-- Two devices of one cell are as far apart in their subnet as in the cell. -/
theorem place_eq_of_same_cell {area : Area} {build : Build} {cell : Cell} {d d' : BuildingDevice}
    (h : area.RangesOrdered) (hmem : build ∈ area.buildList) (hcell : cell ∈ build.model.cellList)
    (hb : build.Contains d.build) (hc : cell.Contains d.cell) (hbuild : d'.build = d.build)
    (hsame : d'.cell = d.cell) :
    d'.place area build.IPID =
      d.place area build.IPID + (d'.device.place cell - d.device.place cell : ℤ) := by
  obtain ⟨b, k, x⟩ := d
  obtain ⟨b', k', x'⟩ := d'
  cases hbuild
  cases hsame
  obtain ⟨l₁, l₂, hl, hl₁, -⟩ := h.builds.split hmem hb
  obtain ⟨k₁, k₂, hk, hk₁, -⟩ := (h.cells build hmem).split hcell hc
  have hcells : ∀ y, cellsPlace build.model.cellList ⟨b, k, y⟩ =
      (k₁.map cellRangeMachineNumber).sum +
        (((k : ℤ) - cell.cellBegin.toNat) * calculationCellMachineNumber cell + y.place cell) := by
    intro y
    rw [hk, cellsPlace_of_split (d := ⟨b, k, y⟩) hk₁ hc]
  rw [place_of_split (d := ⟨b, k, x'⟩) hl hl₁ hb, place_of_split (d := ⟨b, k, x⟩) hl hl₁ hb, hcells,
    hcells]
  ring

/-- The places of the targets are consecutive. -/
theorem place_targetDevice {area : Area} {build : Build} {cell : Cell} (h : area.RangesOrdered)
    (hmem : build ∈ area.buildList) (hcell : cell ∈ build.model.cellList)
    (hb : build.Contains c.buildIndex.toNat) (hc : cell.Contains (c.cellIndex.toNat % 2 ^ 4))
    (sub : ℕ) :
    ((targetDevice c type sub).place area build.IPID : ℤ) =
      (targetDevice c type 0).place area build.IPID + sub := by
  have hkind : ∀ floor door, ((CellDevice.ofType type floor door sub).place cell : ℤ) -
      (CellDevice.ofType type floor door 0).place cell = sub := by
    intro floor door
    cases type <;> simp [CellDevice.ofType, CellDevice.place]
  have hplace : (targetDevice c type sub).place area build.IPID = _ :=
    place_eq_of_same_cell (d := targetDevice c type 0) h hmem hcell hb hc rfl rfl
  rw [hplace]
  exact congrArg _ (hkind _ _)

section Indexes

variable {num count : ℕ} {place : ℕ → ℤ}

/-- Indexes with consecutive places: at most one of fewer than `2 ^ 32` is on a multiple of it. -/
theorem eq_of_place_mod (hcount : count < 256) (hplace : ∀ s, place s = place 0 + s) {s t : ℕ}
    (hs : s ≤ count) (ht : t ≤ count) (hzs : place s % 2 ^ 32 = 0) (hzt : place t % 2 ^ 32 = 0) :
    s = t := by
  have hps := hplace s
  have hpt := hplace t
  omega

/-- An index on a multiple of `2 ^ 32` can only be the last one, if the others are `1 .. num`. -/
theorem eq_last_of_forall_index (hcount : count < 256) (hplace : ∀ s, place s = place 0 + s)
    (hall : ∀ s < 256, ((1 ≤ s ∧ s ≤ count) ∧ place s % 2 ^ 32 ≠ 0) ↔ 1 ≤ s ∧ s ≤ num)
    {s : ℕ} (hs : 1 ≤ s ∧ s ≤ count) (hz : place s % 2 ^ 32 = 0) : s = count ∧ num + 1 = count := by
  have hat : ¬ (1 ≤ s ∧ s ≤ num) := fun hin ↦ ((hall s (by omega)).2 hin).2 hz
  have hother : ∀ t, 1 ≤ t → t ≤ count → t ≠ s → t ≤ num := fun t h1 h2 hne ↦
    ((hall t (by omega)).1 ⟨⟨h1, h2⟩, fun hzt ↦
      hne (eq_of_place_mod hcount hplace h2 hs.2 hzt hz)⟩).2
  have hlast : s = count := by
    by_contra hne
    have hle := hother count (by omega) (le_refl _) (Ne.symm hne)
    omega
  subst hlast
  refine ⟨rfl, ?_⟩
  rcases Nat.lt_or_ge 1 s with hlt | hge
  · have hle := hother (s - 1) (by omega) (by omega) (by omega)
    omega
  · omega

/-- Indexes `1 .. count` without those on a multiple of `2 ^ 32` are `1 .. num` exactly when there
is no such index and `num` is `count`, or it is the last one. -/
theorem forall_index_iff (hnum : num < 256) (hcount : count < 256)
    (hplace : 1 ≤ count → ∀ s, place s = place 0 + s) :
    (∀ s < 256, ((1 ≤ s ∧ s ≤ count) ∧ place s % 2 ^ 32 ≠ 0) ↔ 1 ≤ s ∧ s ≤ num) ↔
      (num = count ∧ ∀ s, 1 ≤ s → s ≤ count → place s % 2 ^ 32 ≠ 0) ∨
        (num + 1 = count ∧ place count % 2 ^ 32 = 0) := by
  constructor
  · intro hall
    by_cases hzero : ∃ s, (1 ≤ s ∧ s ≤ count) ∧ place s % 2 ^ 32 = 0
    · obtain ⟨s, hs, hz⟩ := hzero
      obtain ⟨rfl, hnext⟩ := eq_last_of_forall_index hcount (hplace (by omega)) hall hs hz
      exact Or.inr ⟨hnext, hz⟩
    · push Not at hzero
      refine Or.inl ⟨?_, fun s h1 h2 ↦ hzero s ⟨h1, h2⟩⟩
      have hle : count ≤ num := by
        by_contra hlt
        have hin := (hall count hcount).1 ⟨by omega, hzero count (by omega)⟩
        omega
      have hge : num ≤ count := by
        by_contra hlt
        have hin := (hall num hnum).2 (by omega)
        omega
      omega
  · rintro (⟨rfl, hnz⟩ | ⟨rfl, hz⟩) s hs
    · exact ⟨fun hin ↦ hin.1, fun hin ↦ ⟨hin, hnz s hin.1 hin.2⟩⟩
    · constructor
      · rintro ⟨hin, hnz⟩
        have hne : s ≠ num + 1 := by
          rintro rfl
          exact hnz hz
        omega
      · intro hin
        refine ⟨by omega, fun hzs ↦ ?_⟩
        have heq := eq_of_place_mod hcount (hplace (by omega)) (by omega) (le_refl _) hzs hz
        omega

end Indexes

theorem configuredCount_lt (type : DeviceType) (n floor door : ℕ) (cells : List Cell) :
    configuredCount type n floor door cells < 256 := by
  rw [configuredCount]
  split
  · split_ifs
    · exact (subMachineCount type _).isLt
    · omega
  · omega

theorem enumeratedCount_lt (type : DeviceType) (n floor door : ℕ) (cells : List Cell) :
    enumeratedCount type n floor door cells < 256 := by
  rw [enumeratedCount]
  split
  · split_ifs
    · exact (subMachineCount type _).isLt
    · omega
  · omega

end Agreement

section Targets

variable {area : Area} (machineInfo : MachineInfo) {srcMachineCode : ULongLong} {c : CodeFields}
  {source type : DeviceType} {build : Build} {l₁ l₂ : List Build}
  (hc : praseMachineCode srcMachineCode = c)
  (hsource : DeviceType.ofValue c.machineIndex = some source) (hbuilding : isBuildingType source)
  (htarget : isTargetOf source type) (htype : isBuildingType type)
  (hl : area.buildList = l₁ ++ build :: l₂)
  (hl₁ : ∀ b ∈ l₁, b.buildEnd.toNat < c.buildIndex.toNat)
  (hb : build.Contains c.buildIndex.toNat)
  (hl₂ : ∀ b ∈ l₂, c.buildIndex.toNat < b.buildBegin.toNat ∧
    b.buildBegin.toNat ≤ b.buildEnd.toNat)
  (h : area.RangesOrdered) (ha : c.areaIndex.toNat ≤ build.buildEnd.toNat)
  (hne : build.model.cellList ≠ [])
include hc hsource hbuilding htarget htype hl hl₁ hb hl₂ h ha hne

/-- The targets that are enumerated, and those that are accepted, the first code being the answer.
-/
theorem accepts_of_getObjectMachineInfo {dest : ULongLong} {num : ℤ}
    {destMachineCode : ULongLong}
    (hobj : getObjectMachineInfo dest srcMachineCode (some area) type =
      .ok (num, destMachineCode)) :
    num = enumeratedCount type c.cellIndex.toNat c.floorIndex.toNat c.doorIndex.toNat
        (enumeratedBuild c build l₂).model.cellList ∧
      ∀ sub : UChar, Accepts area machineInfo (withSubMachineIndex destMachineCode sub) ↔
        (targetDevice c type sub.toNat).ConfiguredCell build.model.cellList ∧
          ((targetDevice c type sub.toNat).place area build.IPID : ℤ) % 2 ^ 32 ≠ 0 := by
  have hmem : build ∈ area.buildList := hl ▸ List.mem_append_right _ List.mem_cons_self
  obtain ⟨code, floor, door, hobj', hcode, hof⟩ := getObjectMachineInfo_building dest
    hc hsource hbuilding htarget hl hl₁ hb hl₂
  rw [hobj] at hobj'
  cases hobj'
  refine ⟨rfl, fun sub ↦ ?_⟩
  have hfields := praseMachineCode_withSubMachineIndex destMachineCode sub
  rw [hcode] at hfields
  have hdev : placedDevice (praseMachineCode (withSubMachineIndex destMachineCode sub))
      (.ofType type floor.toNat door.toNat sub.toNat) = targetDevice c type sub.toNat := by
    rw [hfields, placedDevice, targetDevice, hof]
    congr 1
    rw [BitVec.toNat_ofNat]
    omega
  rw [← hdev]
  exact accepts_iff_of_contains h hmem (by rwa [hfields]) (by rwa [hfields]) hne
    (by rw [hfields]; exact DeviceType.ofValue_value type)
    (by rw [cellDeviceOf_eq htype, hfields])

/-- The agreement is one of the configured and the enumerated indexes. -/
theorem enumerationAgrees_iff_forall : EnumerationAgrees area machineInfo srcMachineCode type ↔
    ∀ s < 256, ((1 ≤ s ∧ s ≤ configuredCount type (c.cellIndex.toNat % 2 ^ 4) c.floorIndex.toNat
      c.doorIndex.toNat build.model.cellList) ∧
        ((targetDevice c type s).place area build.IPID : ℤ) % 2 ^ 32 ≠ 0) ↔
      1 ≤ s ∧ s ≤ enumeratedCount type c.cellIndex.toNat c.floorIndex.toNat c.doorIndex.toNat
        (enumeratedBuild c build l₂).model.cellList := by
  have hcells := h.cells build (hl ▸ List.mem_append_right _ List.mem_cons_self)
  obtain ⟨code, -, -, hobj, -⟩ := getObjectMachineInfo_building 0 hc hsource hbuilding
    htarget hl hl₁ hb hl₂
  constructor
  · intro hagree s hs
    have hsub := hagree 0 _ code hobj (BitVec.ofNat 8 s)
    rw [(accepts_of_getObjectMachineInfo machineInfo hc hsource hbuilding htarget htype hl hl₁ hb
      hl₂ h ha hne hobj).2, BitVec.toNat_ofNat, Nat.mod_eq_of_lt (by omega),
      configured_targetDevice_iff htype hcells, Nat.cast_le] at hsub
    exact hsub
  · intro hall dest num code hobj sub
    obtain ⟨hnum, hsub⟩ := accepts_of_getObjectMachineInfo machineInfo hc hsource hbuilding htarget
      htype hl hl₁ hb hl₂ h ha hne hobj
    rw [hsub, hnum, configured_targetDevice_iff htype hcells, Nat.cast_le]
    exact hall sub.toNat sub.isLt

end Targets

/-- **Enumeration and validation** of a building-level target agree exactly when the counts do. -/
theorem enumerationAgrees_iff {area : Area} {machineInfo : MachineInfo}
    {srcMachineCode : ULongLong} {source type : DeviceType} (h : area.RangesOrdered)
    (harea : (praseMachineCode srcMachineCode).areaIndex.toNat = 1)
    (hsource : DeviceType.ofValue (praseMachineCode srcMachineCode).machineIndex = some source)
    (hbuilding : isBuildingType source) (htarget : isTargetOf source type)
    (hacc : Accepts area machineInfo srcMachineCode) :
    EnumerationAgrees area machineInfo srcMachineCode type ↔
      CountsAgree area (praseMachineCode srcMachineCode) type := by
  have htype : isBuildingType type := by
    cases type <;> first | rfl | cases htarget
  generalize hc : praseMachineCode srcMachineCode = c at *
  have hx := cellDeviceOf_eq (c := c) hbuilding
  obtain ⟨build, hmem, ⟨hb, cell, hcell, -⟩, ha⟩ := Accepts.exists_build h (by rwa [hc])
    (by rwa [hc]) (by rwa [hc]) hacc
  rw [hc] at hb ha
  obtain ⟨l₁, l₂, hl, hl₁, hl₂⟩ := h.split_build hmem hb
  rw [enumerationAgrees_iff_forall _ hc hsource hbuilding htarget htype hl hl₁ hb hl₂ h ha
    (List.ne_nil_of_mem hcell), forall_index_iff (enumeratedCount_lt ..) (configuredCount_lt ..)]
  · constructor
    · exact fun hcounts ↦ ⟨l₁, build, l₂, hl, hb, hcounts⟩
    · -- the build that holds the building number is the only one
      rintro ⟨k₁, build', k₂, hk, hb', hcounts⟩
      obtain ⟨rfl, rfl, rfl⟩ := (hl ▸ h.builds).split_unique (hl ▸ hk) hb hb'
      exact hcounts
  · intro hcount s
    obtain ⟨cell', hcell', hc', -⟩ :=
      (configured_targetDevice_iff (c := c) htype (h.cells build hmem) 1).2 ⟨le_refl _, hcount⟩
    exact place_targetDevice h hmem hcell' hb hc' s

/-- The two agree on the indoor stations of building 1, cell 1, floor 1, room 1. -/
theorem enumerationAgrees_sample :
    EnumerationAgrees sampleArea ⟨0, 0, 0, 0, ⟨0, 0, 0⟩⟩ 0x0010010010101011#64 .room := by
  have hsource : DeviceType.ofValue (praseMachineCode 0x0010010010101011#64).machineIndex =
      some .room := by decide
  refine (enumerationAgrees_iff sampleArea_ordered.toRangesOrdered (by decide) hsource
    (by decide) (by decide) ⟨_, _, rfl, by decide⟩).2
    ⟨[], _, _, rfl, by decide, Or.inl ⟨by decide, fun sub hone hle ↦ ?_⟩⟩
  have hcount : configuredCount .room (1 % 2 ^ 4) 1 1
      (sampleArea.buildList.head (by decide)).model.cellList = 1 := by decide
  obtain rfl : sub = 1 := le_antisymm (hle.trans hcount.le) hone
  decide

/-- For an indoor station of building 2, cell 3, which is configured and accepted, no indoor station
is enumerated: the search has gone on to building 3. -/
theorem enumerationAgrees_building2_false :
    sampleArea.RangesOrdered ∧
      Accepts sampleArea ⟨0, 0, 0, 0, ⟨0, 0, 0⟩⟩ 0x0010020030101011#64 ∧
      ¬ EnumerationAgrees sampleArea ⟨0, 0, 0, 0, ⟨0, 0, 0⟩⟩ 0x0010020030101011#64 .room := by
  refine ⟨sampleArea_ordered.toRangesOrdered, ⟨_, _, rfl, by decide⟩, fun hagree ↦ ?_⟩
  have hobj : getObjectMachineInfo 0#64 0x0010020030101011#64 (some sampleArea) .room =
      .ok (0, 0x0010020030101011#64) := by decide
  have hone := (hagree 0#64 0 _ hobj 1#8).1 ⟨_, _, rfl, by decide⟩
  exact absurd hone.2 (by decide)

end DoorIntercom
