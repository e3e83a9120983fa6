import DoorIntercom.Area.Devices

/-!
# What `initMachineInfo` does, device by device

The loops of `initMachineInfo` against the abstract devices. On ordered ranges a scan passes the
entries that end before the wanted number, stops at the entry that holds it, and would stop at the
first one that begins after it. From this, one lemma for each loop, and from these the two results
everything else cites: `checkBuildingDevice_of_contains` (the parameter switch accepts a code of a
configured building exactly when the building has the device) and `initMachineInfo_building` (the
returned number is the place of the device in its subnet).
-/

namespace DoorIntercom

/-! ### The searches -/

section Search

variable {c : CodeFields} {area : Area}

/-- A cursor never becomes unassigned. -/
theorem searchBuild_ne_none {l : List Build} {cur : Option Build} (h : l ≠ [] ∨ cur ≠ none) :
    searchBuild c cur l ≠ none := by
  induction l generalizing cur with
  | nil => exact h.resolve_left fun hl ↦ hl rfl
  | cons b l ih =>
    rw [searchBuild]
    split_ifs
    · exact ih (Or.inr (by simp))
    · simp
    · simp
    · exact ih (Or.inr (by simp))

/-- The cursor is left on an entry of the list, or where it was. -/
theorem mem_of_searchBuild {l : List Build} {cur : Option Build} {build : Build}
    (h : searchBuild c cur l = some build) : build ∈ l ∨ cur = some build := by
  induction l generalizing cur with
  | nil => exact Or.inr h
  | cons b l ih =>
    have hrest : ∀ {b' : Build}, (b' ∈ l ∨ some b = some b') → b' ∈ b :: l := by
      rintro b' (hb' | hb')
      · exact List.mem_cons_of_mem _ hb'
      · cases hb'
        exact List.mem_cons_self
    rw [searchBuild] at h
    split_ifs at h
    · exact Or.inl (hrest (ih h))
    · exact Or.inl (hrest (Or.inr h))
    · exact Or.inl (hrest (Or.inr h))
    · exact Or.inl (hrest (ih h))

/-- The search passes the entries before the wanted building. -/
theorem searchBuild_append {l₁ : List Build} (l₂ : List Build) (cur : Option Build)
    (hl : ∀ b ∈ l₁, b.buildEnd.toNat < c.buildIndex.toNat) :
    ∃ cur', searchBuild c cur (l₁ ++ l₂) = searchBuild c cur' l₂ := by
  induction l₁ generalizing cur with
  | nil => exact ⟨cur, rfl⟩
  | cons b l₁ ih =>
    obtain ⟨cur', hcur'⟩ := ih (some b) fun b' hb' ↦ hl b' (List.mem_cons_of_mem _ hb')
    refine ⟨cur', ?_⟩
    rw [List.cons_append, searchBuild, if_pos (hl b List.mem_cons_self), hcur']

/-- **The building search.** It stops at the entry that holds the building number, unless the area
index exceeds the end of that entry: then it goes on to the next entry, if there is one. -/
theorem searchBuild_of_contains {l₁ l₂ : List Build} {cur : Option Build} {build : Build}
    (hl₁ : ∀ b ∈ l₁, b.buildEnd.toNat < c.buildIndex.toNat)
    (hb : build.Contains c.buildIndex.toNat)
    (hl₂ : ∀ b ∈ l₂, c.buildIndex.toNat < b.buildBegin.toNat ∧
      b.buildBegin.toNat ≤ b.buildEnd.toNat) :
    searchBuild c cur (l₁ ++ build :: l₂) =
      some (if c.areaIndex.toNat ≤ build.buildEnd.toNat then build else l₂.headD build) := by
  obtain ⟨cur', hcur'⟩ := searchBuild_append (build :: l₂) cur hl₁
  rw [hcur', searchBuild, if_neg (Nat.not_lt.2 hb.2)]
  by_cases ha : c.areaIndex.toNat ≤ build.buildEnd.toNat
  · rw [if_pos ⟨hb.1, ha⟩, if_pos ha]
  · rw [if_neg fun h ↦ ha h.2, if_neg (Nat.not_lt.2 hb.1), if_neg ha]
    cases l₂ with
    | nil => rfl
    | cons b l₂ =>
      obtain ⟨hlt, hle⟩ := hl₂ b List.mem_cons_self
      rw [searchBuild, if_neg (by omega), if_neg (by omega), if_pos hlt]
      rfl

theorem searchCell_ne_none {l : List Cell} {cur : Option Cell} (h : l ≠ [] ∨ cur ≠ none) :
    searchCell c cur l ≠ none := by
  induction l generalizing cur with
  | nil => exact h.resolve_left fun hl ↦ hl rfl
  | cons b l ih =>
    rw [searchCell]
    split_ifs
    · exact ih (Or.inr (by simp))
    · simp
    · simp
    · exact ih (Or.inr (by simp))

theorem mem_of_searchCell {l : List Cell} {cur : Option Cell} {cell : Cell}
    (h : searchCell c cur l = some cell) : cell ∈ l ∨ cur = some cell := by
  induction l generalizing cur with
  | nil => exact Or.inr h
  | cons b l ih =>
    have hrest : ∀ {b' : Cell}, (b' ∈ l ∨ some b = some b') → b' ∈ b :: l := by
      rintro b' (hb' | hb')
      · exact List.mem_cons_of_mem _ hb'
      · cases hb'
        exact List.mem_cons_self
    rw [searchCell] at h
    split_ifs at h
    · exact Or.inl (hrest (ih h))
    · exact Or.inl (hrest (Or.inr h))
    · exact Or.inl (hrest (Or.inr h))
    · exact Or.inl (hrest (ih h))

/-- **The cell search.** It stops at the entry that holds the cell number. -/
theorem searchCell_of_contains {l₁ l₂ : List Cell} {cur : Option Cell} {cell : Cell}
    (hl₁ : ∀ b ∈ l₁, b.cellEnd.toNat < c.cellIndex.toNat)
    (hcell : cell.Contains c.cellIndex.toNat) :
    searchCell c cur (l₁ ++ cell :: l₂) = some cell := by
  induction l₁ generalizing cur with
  | nil =>
    rw [List.nil_append, searchCell, if_neg (Nat.not_lt.2 hcell.2), if_pos ⟨hcell.1, hcell.2⟩]
  | cons b l₁ ih =>
    rw [List.cons_append, searchCell, if_pos (hl₁ b List.mem_cons_self),
      ih fun b' hb' ↦ hl₁ b' (List.mem_cons_of_mem _ hb')]

end Search

/-! ### The parameter switch -/

section Check

variable {type : DeviceType} {c : CodeFields} {x : CellDevice} {cell : Cell} {build : Build}
  {area : Area}

/-- The building device that the high fields of a code put `x` at. -/
def placedDevice (c : CodeFields) (x : CellDevice) : BuildingDevice :=
  ⟨c.buildIndex.toNat, c.cellIndex.toNat, x⟩

/-- The tests on the indexes are the ones a configured device passes. -/
theorem checkIndexes_eq (hx : cellDeviceOf type c = some x) :
    checkIndexes type c cell = decide (x.Configured cell) := by
  rw [Bool.eq_iff_iff, decide_eq_true_iff]
  cases type <;> cases hx <;>
    simp [checkIndexes, CellDevice.Configured, Cell.HasRoom] <;> omega

/-- **The search has found the building.** The parameters are accepted exactly when the building has
the device. -/
theorem checkBuildingDevice_of_search (hsearch : searchBuild c none area.buildList = some build)
    (hb : build.Contains c.buildIndex.toNat)
    (hcells : Increasing (fun c : Cell ↦ c.cellBegin.toNat) (fun c ↦ c.cellEnd.toNat)
      build.model.cellList)
    (hne : build.model.cellList ≠ []) (hx : cellDeviceOf type c = some x) :
    checkBuildingDevice type c area =
      .ok (decide ((placedDevice c x).ConfiguredCell build.model.cellList)) := by
  have hbuild : ¬ (c.buildIndex.toNat < build.buildBegin.toNat ∨
      c.buildIndex.toNat > build.buildEnd.toNat) := by
    rw [Build.Contains] at hb
    omega
  simp only [checkBuildingDevice, hsearch, if_neg hbuild]
  by_cases hc : ∃ cell ∈ build.model.cellList, cell.Contains c.cellIndex.toNat
  · obtain ⟨cell, hcell, hc⟩ := hc
    -- the ranges are disjoint, so the search stops at the one cell that holds the index
    obtain ⟨l₁, l₂, hl, hl₁, -⟩ := hcells.split hcell hc
    have hin : ¬ (c.cellIndex.toNat < cell.cellBegin.toNat ∨
        c.cellIndex.toNat > cell.cellEnd.toNat) := by
      rw [Cell.Contains] at hc
      omega
    have hiff : (placedDevice c x).ConfiguredCell build.model.cellList ↔ x.Configured cell := by
      constructor
      · rintro ⟨cell', hcell', hc', hconf⟩
        rwa [hcells.unique hcell hcell' hc hc']
      · exact fun hconf ↦ ⟨cell, hcell, hc, hconf⟩
    have hsearchCell : searchCell c none build.model.cellList = some cell := by
      rw [hl, searchCell_of_contains hl₁ hc]
    simp only [hsearchCell, if_neg hin, checkIndexes_eq hx, hiff]
  · have hnot : ¬ (placedDevice c x).ConfiguredCell build.model.cellList := by
      rintro ⟨cell, hcell, hcont, -⟩
      exact hc ⟨cell, hcell, hcont⟩
    rw [decide_eq_false hnot]
    -- some cell is found all the same, and the range test after the loop refuses it
    rcases hs : searchCell c none build.model.cellList with _ | cell
    · exact absurd hs (searchCell_ne_none (Or.inl hne))
    · have hout : ¬ cell.Contains c.cellIndex.toNat := by
        rcases mem_of_searchCell hs with hmem | hnone
        · exact fun hcont ↦ hc ⟨cell, hmem, hcont⟩
        · exact absurd hnone (by simp)
      rw [Cell.Contains] at hout
      simp only []
      rw [if_pos (by omega)]

/-- **What acceptance says**: the search has found the building, and the building has the device. -/
theorem exists_of_checkBuildingDevice (hx : cellDeviceOf type c = some x)
    (hcheck : checkBuildingDevice type c area = .ok true) :
    ∃ build ∈ area.buildList, searchBuild c none area.buildList = some build ∧
      (placedDevice c x).ConfiguredIn build := by
  rw [checkBuildingDevice] at hcheck
  rcases hs : searchBuild c none area.buildList with _ | build
  · simp [hs] at hcheck
  · simp only [hs] at hcheck
    split_ifs at hcheck with hout
    · cases hcheck
    rcases hs' : searchCell c none build.model.cellList with _ | cell
    · simp [hs'] at hcheck
    · simp only [hs'] at hcheck
      split_ifs at hcheck with hout'
      · cases hcheck
      rw [checkIndexes_eq hx] at hcheck
      refine ⟨build, (mem_of_searchBuild hs).resolve_right (by simp), rfl, ?_, cell,
        (mem_of_searchCell hs').resolve_right (by simp), ?_, ?_⟩
      · show build.Contains c.buildIndex.toNat
        rw [Build.Contains]
        omega
      · show cell.Contains c.cellIndex.toNat
        rw [Cell.Contains]
        omega
      · show x.Configured cell
        simpa using hcheck

section Contains

variable (h : area.RangesOrdered) (hmem : build ∈ area.buildList)
  (hb : build.Contains c.buildIndex.toNat)
include h hmem hb

/-- The entry that holds the building number, among the entries before and after it. -/
theorem Area.RangesOrdered.split_build :
    ∃ l₁ l₂, area.buildList = l₁ ++ build :: l₂ ∧
      (∀ b ∈ l₁, b.buildEnd.toNat < c.buildIndex.toNat) ∧
      ∀ b ∈ l₂, c.buildIndex.toNat < b.buildBegin.toNat ∧
        b.buildBegin.toNat ≤ b.buildEnd.toNat := by
  obtain ⟨l₁, l₂, hl, hl₁, hl₂⟩ := h.builds.split hmem hb
  refine ⟨l₁, l₂, hl, hl₁, fun b hb' ↦ ⟨hl₂ b hb', h.builds.lo_le_hi b ?_⟩⟩
  rw [hl]
  exact List.mem_append_right _ (List.mem_cons_of_mem _ hb')

variable (ha : c.areaIndex.toNat ≤ build.buildEnd.toNat)
include ha

theorem searchBuild_eq : searchBuild c none area.buildList = some build := by
  obtain ⟨l₁, l₂, hl, hl₁, hl₂⟩ := h.split_build hmem hb
  rw [hl, searchBuild_of_contains hl₁ hb hl₂, if_pos ha]

/-- **A code of a configured building** is accepted exactly when the building has the device. -/
theorem checkBuildingDevice_of_contains (hne : build.model.cellList ≠ [])
    (hx : cellDeviceOf type c = some x) :
    checkBuildingDevice type c area =
      .ok (decide ((placedDevice c x).ConfiguredCell build.model.cellList)) :=
  checkBuildingDevice_of_search (searchBuild_eq h hmem hb ha) hb (h.cells build hmem) hne hx

end Contains

end Check

/-! ### The numbering loops -/

/-- The configured number of devices of a kind at one place of a cell: what `machineInfo->number`
and the result of `getObjectMachineInfo` are taken from. -/
def subMachineCount (type : DeviceType) (cell : Cell) : UChar :=
  match type with
  | .room => cell.inDoorCount
  | .cellDoor => cell.outDoorCount
  | .houseDoor => cell.secondOutDoorCount
  | _ => 0#8

section Numbering

variable {R : Type} [CommRing R] {type : DeviceType} {c : CodeFields} {x : CellDevice}
  {cell : Cell} {build : Build} {area : Area}

theorem numberInCell_eq (hx : cellDeviceOf type c = some x) (s : R × MachineInfo) :
    numberInCell type c cell s =
      (s.1 + x.place cell,
        { s.2 with number := subMachineCount type cell, index := c.subMachineIndex }) := by
  cases type <;> cases hx <;>
    simp only [numberInCell, CellDevice.place, subMachineCount, roomOffset, Cell.roomPlace,
      Prod.mk.injEq, and_true] <;>
    ring

/-- The cell loop passes the cells before the device's, adding their devices. -/
theorem numberCells_append {l₁ : List Cell} (l₂ : List Cell)
    (hl : ∀ b ∈ l₁, b.cellEnd.toNat < c.cellIndex.toNat) (s : R × MachineInfo) :
    numberCells type c (l₁ ++ l₂) s =
      numberCells type c l₂ (s.1 + (l₁.map cellRangeMachineNumber).sum, s.2) := by
  induction l₁ generalizing s with
  | nil => simp
  | cons b l₁ ih =>
    rw [List.cons_append, numberCells, if_pos (hl b List.mem_cons_self),
      ih fun b' hb' ↦ hl b' (List.mem_cons_of_mem _ hb'), List.map_cons, List.sum_cons, add_assoc]

/-- **The cell loop** adds the place of the device in its building. -/
theorem numberCells_eq {l₁ l₂ : List Cell}
    (hl₁ : ∀ b ∈ l₁, b.cellEnd.toNat < c.cellIndex.toNat)
    (hc : cell.Contains c.cellIndex.toNat) (hx : cellDeviceOf type c = some x)
    (s : R × MachineInfo) :
    numberCells type c (l₁ ++ cell :: l₂) s =
      (s.1 + cellsPlace (l₁ ++ cell :: l₂) (placedDevice c x),
        { s.2 with number := subMachineCount type cell, index := c.subMachineIndex }) := by
  rw [numberCells_append _ hl₁, numberCells, if_neg (Nat.not_lt.2 hc.2), if_pos ⟨hc.1, hc.2⟩,
    numberInCell_eq hx, cellsPlace_of_split (d := placedDevice c x) hl₁ hc]
  simp only [placedDevice, Prod.mk.injEq, and_true]
  ring

/-- The building loop passes the entries before the device's, adding those of its subnet. -/
theorem numberBuilds_append {l₁ : List Build} (l₂ : List Build)
    (hl : ∀ b ∈ l₁, b.buildEnd.toNat < c.buildIndex.toNat) (s : R × MachineInfo) :
    numberBuilds type c (l₁ ++ l₂) s =
      numberBuilds type c l₂
        (s.1 + ((l₁.filter (·.IPID = s.2.ipid)).map buildRangeMachineNumber).sum, s.2) := by
  induction l₁ generalizing s with
  | nil => simp
  | cons b l₁ ih =>
    have hlt := hl b List.mem_cons_self
    have hrest : ∀ b' ∈ l₁, b'.buildEnd.toNat < c.buildIndex.toNat := fun b' hb' ↦
      hl b' (List.mem_cons_of_mem _ hb')
    rw [List.cons_append, numberBuilds]
    by_cases hip : b.IPID = s.2.ipid
    · rw [if_pos hip, if_pos hlt, ih hrest, List.filter_cons_of_pos (by simpa using hip),
        List.map_cons, List.sum_cons, add_assoc]
    · rw [if_neg hip, ih hrest, List.filter_cons_of_neg (by simpa using hip)]

/-- The building loop does nothing at entries that begin after the device's building. -/
theorem numberBuilds_of_lt {l : List Build}
    (hl : ∀ b ∈ l, c.buildIndex.toNat < b.buildBegin.toNat ∧
      b.buildBegin.toNat ≤ b.buildEnd.toNat) (s : R × MachineInfo) :
    numberBuilds type c l s = s := by
  induction l generalizing s with
  | nil => rfl
  | cons b l ih =>
    obtain ⟨hlt, hle⟩ := hl b List.mem_cons_self
    -- the loop has no `break` for these: neither branch is taken
    have hpast : ¬ c.buildIndex.toNat > b.buildEnd.toNat := by omega
    have hin : ¬ (c.buildIndex.toNat ≥ b.buildBegin.toNat ∧
        c.areaIndex.toNat ≤ b.buildEnd.toNat) := by omega
    rw [numberBuilds, if_neg hpast, if_neg hin, ite_self]
    exact ih (fun b' hb' ↦ hl b' (List.mem_cons_of_mem _ hb')) s

/-- The search for the `IPID` passes the entries before the device's. -/
theorem searchIpid_append {l₁ : List Build} (l₂ : List Build)
    (hl : ∀ b ∈ l₁, b.buildEnd.toNat < c.buildIndex.toNat) (ipid : UChar) :
    searchIpid c ipid (l₁ ++ l₂) = searchIpid c ipid l₂ := by
  induction l₁ with
  | nil => rfl
  | cons b l₁ ih =>
    rw [List.cons_append, searchIpid, if_pos (hl b List.mem_cons_self)]
    exact ih fun b' hb' ↦ hl b' (List.mem_cons_of_mem _ hb')

/-- It stops at the entry that holds the building number. -/
theorem searchIpid_of_contains {l₁ l₂ : List Build} {ipid : UChar}
    (hl₁ : ∀ b ∈ l₁, b.buildEnd.toNat < c.buildIndex.toNat)
    (hb : build.Contains c.buildIndex.toNat) (ha : c.areaIndex.toNat ≤ build.buildEnd.toNat) :
    searchIpid c ipid (l₁ ++ build :: l₂) = build.IPID := by
  rw [searchIpid_append _ hl₁, searchIpid, if_neg (Nat.not_lt.2 hb.2), if_pos ⟨hb.1, ha⟩]

/-- **The numbering of a building device**: its place in the subnet of its building. -/
theorem numberBuildingDevice_eq (h : area.RangesOrdered) (hmem : build ∈ area.buildList)
    (hb : build.Contains c.buildIndex.toNat) (ha : c.areaIndex.toNat ≤ build.buildEnd.toNat)
    (hcell : cell ∈ build.model.cellList) (hc : cell.Contains c.cellIndex.toNat)
    (hx : cellDeviceOf type c = some x) (machineInfo : MachineInfo) :
    numberBuildingDevice (R := R) type c area machineInfo =
      ((placedDevice c x).place area build.IPID,
        { machineInfo with
          ipid := build.IPID
          number := subMachineCount type cell
          index := c.subMachineIndex }) := by
  obtain ⟨l₁, l₂, hl, hl₁, hl₂⟩ := h.split_build hmem hb
  obtain ⟨k₁, k₂, hk, hk₁, -⟩ := (h.cells build hmem).split hcell hc
  rw [numberBuildingDevice, hl, searchIpid_of_contains hl₁ hb ha, numberBuilds_append _ hl₁,
    numberBuilds, if_pos rfl, if_neg (Nat.not_lt.2 hb.2), if_pos ⟨hb.1, ha⟩, hk,
    numberCells_eq hk₁ hc hx, numberBuilds_of_lt hl₂,
    place_of_split (d := placedDevice c x) hl hl₁ hb, ← hk]
  simp only [placedDevice, Prod.mk.injEq, and_true]
  ring

end Numbering

/-! ### The whole function -/

section Init

variable {R : Type} [CommRing R] [CInt R] {type : DeviceType} {machineCode : ULongLong}
  {x : CellDevice} {cell : Cell} {build : Build} {area : Area} {machineInfo : MachineInfo}

/-- The last statement of `initMachineInfo`: the address is planned into `*machineInfo`. -/
def planAddress (area : Area) (machineNumber : R) (machineInfo : MachineInfo) : MachineInfo :=
  { machineInfo with
    machineIPInfo := (calculationIP (some area) machineNumber (machineInfo.ipid.setWidth 32)
      machineInfo.machineIPInfo).2 }

/-- Parameters that are refused leave everything as it was. -/
theorem initMachineInfo_of_refused
    (h : checkParameters (praseMachineCode machineCode) area = .ok false) :
    initMachineInfo (R := R) machineCode (some area) machineInfo = .ok (0, machineInfo) := by
  simp only [initMachineInfo, h]
  rfl

theorem initMachineInfo_of_accepted
    (h : checkParameters (praseMachineCode machineCode) area = .ok true) :
    initMachineInfo (R := R) machineCode (some area) machineInfo =
      .ok ((numberDevice machineCode area machineInfo).1,
        planAddress area (numberDevice (R := R) machineCode area machineInfo).1
          (numberDevice (R := R) machineCode area machineInfo).2) := by
  simp only [initMachineInfo, h]
  rfl

theorem initMachineInfo_of_fault {f : Fault}
    (h : checkParameters (praseMachineCode machineCode) area = .error f) :
    initMachineInfo (R := R) machineCode (some area) machineInfo = .error f := by
  simp only [initMachineInfo, h]
  rfl

/-- A number other than 0 is only returned for parameters that pass the switch. -/
theorem checkParameters_of_ne_zero {n : R} {machineInfo' : MachineInfo}
    (hinit : initMachineInfo machineCode (some area) machineInfo = .ok (n, machineInfo'))
    (hn : n ≠ 0) : checkParameters (praseMachineCode machineCode) area = .ok true := by
  rcases hcheck : checkParameters (praseMachineCode machineCode) area with f | _ | _
  · rw [initMachineInfo_of_fault hcheck] at hinit
    cases hinit
  · rw [initMachineInfo_of_refused hcheck] at hinit
    cases hinit
    exact absurd rfl hn
  · rfl

/-- The types of building devices are those without a `Guard` record, perimeter monitors apart. -/
theorem guardIndex_eq_none_of_cellDeviceOf {c : CodeFields} (hx : cellDeviceOf type c = some x) :
    guardIndex type = none ∧ type ≠ .monitor := by
  cases type <;> simp [cellDeviceOf] at hx <;> exact ⟨rfl, by simp⟩

section Building

variable (htype : DeviceType.ofValue (praseMachineCode machineCode).machineIndex = some type)
  (hx : cellDeviceOf type (praseMachineCode machineCode) = some x)
include htype hx

theorem checkParameters_building :
    checkParameters (praseMachineCode machineCode) area =
      checkBuildingDevice type (praseMachineCode machineCode) area := by
  obtain ⟨hg, hm⟩ := guardIndex_eq_none_of_cellDeviceOf hx
  rw [checkParameters]
  rw [htype]
  cases type <;> first | rfl | exact absurd rfl hm | simp [guardIndex] at hg

omit [CInt R] in
theorem numberDevice_building :
    numberDevice (R := R) machineCode area machineInfo =
      numberBuildingDevice type (praseMachineCode machineCode) area
        { machineInfo with machineCode := machineCode } := by
  obtain ⟨hg, -⟩ := guardIndex_eq_none_of_cellDeviceOf hx
  simp only [numberDevice, htype, hg]

theorem deviceOf_building : deviceOf (praseMachineCode machineCode) =
    some (.building (placedDevice (praseMachineCode machineCode) x)) := by
  obtain ⟨hg, -⟩ := guardIndex_eq_none_of_cellDeviceOf hx
  rw [deviceOf, htype, Option.bind_some, deviceOfType, hg, hx]
  rfl

/-- **A configured building device** gets its place in its subnet as machine number. -/
theorem initMachineInfo_building (h : area.RangesOrdered) (hmem : build ∈ area.buildList)
    (hb : build.Contains (praseMachineCode machineCode).buildIndex.toNat)
    (ha : (praseMachineCode machineCode).areaIndex.toNat ≤ build.buildEnd.toNat)
    (hcell : cell ∈ build.model.cellList)
    (hc : cell.Contains (praseMachineCode machineCode).cellIndex.toNat)
    (hconf : x.Configured cell) :
    initMachineInfo (R := R) machineCode (some area) machineInfo =
      .ok ((placedDevice (praseMachineCode machineCode) x).place area build.IPID,
        planAddress area
          ((placedDevice (praseMachineCode machineCode) x).place area build.IPID : R)
          { machineInfo with
            machineCode := machineCode
            ipid := build.IPID
            number := subMachineCount type cell
            index := (praseMachineCode machineCode).subMachineIndex }) := by
  have hcheck : checkParameters (praseMachineCode machineCode) area = .ok true := by
    rw [checkParameters_building htype hx, checkBuildingDevice_of_contains h hmem hb ha
      (List.ne_nil_of_mem hcell) hx, decide_eq_true ⟨cell, hcell, hc, hconf⟩]
  rw [initMachineInfo_of_accepted hcheck, numberDevice_building htype hx,
    numberBuildingDevice_eq h hmem hb ha hcell hc hx]

end Building

/-- **A device of the area** is accepted exactly within its index range, and gets its place after
the building devices of its subnet. -/
theorem initMachineInfo_guard {g : Fin 3}
    (htype : DeviceType.ofValue (praseMachineCode machineCode).machineIndex = some type)
    (hg : guardIndex type = some g) :
    initMachineInfo (R := R) machineCode (some area) machineInfo =
      if (area.guard g).indexBegin.toNat ≤ (praseMachineCode machineCode).subMachineIndex.toNat ∧
          (praseMachineCode machineCode).subMachineIndex.toNat ≤ (area.guard g).indexEnd.toNat then
        .ok (guardPlace area g (praseMachineCode machineCode).subMachineIndex.toNat,
          planAddress area
            (guardPlace area g (praseMachineCode machineCode).subMachineIndex.toNat : R)
            { machineInfo with
              machineCode := machineCode
              ipid := (area.guard g).IPID
              number := (area.guard g).indexEnd - (area.guard g).indexBegin + 1#8
              index := (praseMachineCode machineCode).subMachineIndex })
      else .ok (0, machineInfo) := by
  have hnumber : numberDevice (R := R) machineCode area machineInfo =
      numberGuardDevice (praseMachineCode machineCode) area g
        { machineInfo with machineCode := machineCode } := by
    simp only [numberDevice, htype, hg]
  have hcheck : checkParameters (praseMachineCode machineCode) area =
      .ok (decide ((area.guard g).indexBegin.toNat ≤
          (praseMachineCode machineCode).subMachineIndex.toNat ∧
        (praseMachineCode machineCode).subMachineIndex.toNat ≤
          (area.guard g).indexEnd.toNat)) := by
    have hswitch : checkParameters (praseMachineCode machineCode) area =
        .ok (!((praseMachineCode machineCode).subMachineIndex.toNat <
            (area.guard g).indexBegin.toNat ||
          (praseMachineCode machineCode).subMachineIndex.toNat >
            (area.guard g).indexEnd.toNat)) := by
      rw [checkParameters]
      rw [htype]
      cases type <;> cases hg <;> rfl
    rw [hswitch]
    congr 1
    rw [Bool.eq_iff_iff, decide_eq_true_iff]
    simp
  split_ifs with hin
  · rw [decide_eq_true hin] at hcheck
    rw [initMachineInfo_of_accepted hcheck, hnumber]
    rfl
  · rw [decide_eq_false hin] at hcheck
    exact initMachineInfo_of_refused hcheck

/-- A perimeter monitor or an unknown type is refused. -/
theorem initMachineInfo_of_no_device
    (h : deviceOf (praseMachineCode machineCode) = none) :
    initMachineInfo (R := R) machineCode (some area) machineInfo = .ok (0, machineInfo) := by
  apply initMachineInfo_of_refused
  rw [checkParameters]
  rcases htype : DeviceType.ofValue (praseMachineCode machineCode).machineIndex with _ | type
  · rfl
  · rw [deviceOf, htype, Option.bind_some] at h
    cases type <;> first | rfl | simp [deviceOfType, guardIndex, cellDeviceOf] at h

end Init

end DoorIntercom
