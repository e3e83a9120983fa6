import DoorIntercom.Area.MachineInfo
import DoorIntercom.Lib.Numbering
import Mathlib.Algebra.BigOperators.Ring.Finset

/-!
# The devices of an estate

What a machine code denotes, and the place of a device in its subnet, without any machine code,
search loop or byte: a device of a building is given by its building, its cell and a device of that
cell; a device of the area by its `Guard` record and its index. The devices of one cell are counted
doors first, then floor by floor and room by room, in each room the second doors before the indoor
stations.

`numbers_configured` is the purpose of the numbering: the devices that a well-formed configuration
puts into one subnet are numbered consecutively from 1.
-/

namespace DoorIntercom

/-- A device of one cell. A cell door belongs to no floor and no room. -/
inductive CellDevice
  | outDoor (sub : ℕ)
  | houseDoor (floor door sub : ℕ)
  | indoor (floor door sub : ℕ)
  deriving DecidableEq, Repr

/-- A device of a building. -/
structure BuildingDevice where
  build : ℕ
  cell : ℕ
  device : CellDevice
  deriving DecidableEq, Repr

/-- A device of the estate. -/
inductive Device
  | building (d : BuildingDevice)
  | area (g : Fin 3) (sub : ℕ)
  deriving DecidableEq, Repr

/-! ### What a code denotes -/

/-- The device of a cell that the low fields of a code denote. -/
def cellDeviceOf (type : DeviceType) (c : CodeFields) : Option CellDevice :=
  match type with
  | .cellDoor => some (.outDoor c.subMachineIndex.toNat)
  | .houseDoor =>
    some (.houseDoor c.floorIndex.toNat c.doorIndex.toNat c.subMachineIndex.toNat)
  | .room => some (.indoor c.floorIndex.toNat c.doorIndex.toNat c.subMachineIndex.toNat)
  | _ => none

/-- The device that a code of one type denotes; perimeter monitors are not numbered. -/
def deviceOfType (type : DeviceType) (c : CodeFields) : Option Device :=
  match guardIndex type with
  | some g => some (.area g c.subMachineIndex.toNat)
  | none =>
    (cellDeviceOf type c).map fun d ↦ .building ⟨c.buildIndex.toNat, c.cellIndex.toNat, d⟩

/-- The device that a code denotes. -/
def deviceOf (c : CodeFields) : Option Device :=
  (DeviceType.ofValue c.machineIndex).bind fun type ↦ deviceOfType type c

/-! ### Configured devices -/

/-- The device exists in the cell. -/
def CellDevice.Configured (cell : Cell) : CellDevice → Prop
  | outDoor sub => 1 ≤ sub ∧ sub ≤ cell.outDoorCount.toNat
  | houseDoor floor door sub =>
    cell.HasRoom floor door ∧ 1 ≤ sub ∧ sub ≤ cell.secondOutDoorCount.toNat
  | indoor floor door sub => cell.HasRoom floor door ∧ 1 ≤ sub ∧ sub ≤ cell.inDoorCount.toNat

instance (cell : Cell) : (d : CellDevice) → Decidable (d.Configured cell)
  | .outDoor _ => inferInstanceAs (Decidable (_ ∧ _))
  | .houseDoor _ _ _ => inferInstanceAs (Decidable (_ ∧ _))
  | .indoor _ _ _ => inferInstanceAs (Decidable (_ ∧ _))

/-- The device exists in a cell of the list. -/
def BuildingDevice.ConfiguredCell (cells : List Cell) (d : BuildingDevice) : Prop :=
  ∃ cell ∈ cells, cell.Contains d.cell ∧ d.device.Configured cell

instance (cells : List Cell) (d : BuildingDevice) : Decidable (d.ConfiguredCell cells) :=
  inferInstanceAs (Decidable (∃ cell ∈ cells, _))

/-- The device exists in a building of the entry. -/
def BuildingDevice.ConfiguredIn (build : Build) (d : BuildingDevice) : Prop :=
  build.Contains d.build ∧ d.ConfiguredCell build.model.cellList

instance (build : Build) (d : BuildingDevice) : Decidable (d.ConfiguredIn build) :=
  inferInstanceAs (Decidable (_ ∧ _))

/-- The building devices of a subnet. -/
def configuredDevices (area : Area) (ipid : UChar) : Set BuildingDevice :=
  {d | ∃ build ∈ area.buildList.filter (·.IPID = ipid), d.ConfiguredIn build}

/-! ### Places

The number of a device, in any ring `R` to count in. -/

section Place

variable {R : Type} [CommRing R]

/-- The place of a room: the devices of the rooms before it. -/
def Cell.roomPlace (cell : Cell) (floor door : ℕ) : R :=
  ((floor : R) - cell.floorBegin.toNat) *
      (((cell.roomEnd.toNat : R) - cell.roomBegin.toNat + 1) *
        (cell.inDoorCount.toNat + cell.secondOutDoorCount.toNat)) +
    ((door : R) - cell.roomBegin.toNat) *
      (cell.inDoorCount.toNat + cell.secondOutDoorCount.toNat)

/-- The place of a device in its cell. -/
def CellDevice.place (cell : Cell) : CellDevice → R
  | outDoor sub => sub
  | houseDoor floor door sub => cell.outDoorCount.toNat + (cell.roomPlace floor door + sub)
  | indoor floor door sub =>
    cell.outDoorCount.toNat +
      (cell.roomPlace floor door + (cell.secondOutDoorCount.toNat + sub))

/-- The place of a device in one building with the given cells. -/
def cellsPlace : List Cell → BuildingDevice → R
  | [], _ => 0
  | cell :: rest, d =>
    if cell.cellEnd.toNat < d.cell then cellRangeMachineNumber cell + cellsPlace rest d
    else ((d.cell : R) - cell.cellBegin.toNat) * calculationCellMachineNumber cell +
      d.device.place cell

/-- The place of a device in a subnet with the given buildings. -/
def buildsPlace : List Build → BuildingDevice → R
  | [], _ => 0
  | build :: rest, d =>
    if build.buildEnd.toNat < d.build then buildRangeMachineNumber build + buildsPlace rest d
    else ((d.build : R) - build.buildBegin.toNat) * calculationBuildMachineNumber build +
      cellsPlace build.model.cellList d

/-- The place of a building device in its subnet. -/
def BuildingDevice.place (area : Area) (ipid : UChar) (d : BuildingDevice) : R :=
  buildsPlace (area.buildList.filter (·.IPID = ipid)) d

/-- The place of a device of the area: after all the building devices of its subnet, at its index
past the devices of the records before its own. -/
def guardPlace (area : Area) (g : Fin 3) (sub : ℕ) : R :=
  subnetMachineNumber area (area.guard g).IPID + (guardOffset area g + sub)

end Place

/-! ### Counts -/

/-- The floors of a cell. -/
def Cell.floors (cell : Cell) : ℕ := cell.floorEnd.toNat + 1 - cell.floorBegin.toNat

/-- The rooms of a floor. -/
def Cell.rooms (cell : Cell) : ℕ := cell.roomEnd.toNat + 1 - cell.roomBegin.toNat

/-- The devices of a cell. -/
def Cell.deviceCount (cell : Cell) : ℕ :=
  cell.outDoorCount.toNat +
    cell.floors * (cell.rooms * (cell.secondOutDoorCount.toNat + cell.inDoorCount.toNat))

/-- The devices of the cells of an entry. -/
def Cell.rangeCount (cell : Cell) : ℕ :=
  (cell.cellEnd.toNat + 1 - cell.cellBegin.toNat) * cell.deviceCount

/-- The devices of a building. -/
def Build.deviceCount (build : Build) : ℕ := (build.model.cellList.map Cell.rangeCount).sum

/-- The devices of the buildings of an entry. -/
def Build.rangeCount (build : Build) : ℕ :=
  (build.buildEnd.toNat + 1 - build.buildBegin.toNat) * build.deviceCount

/-- The building devices of a subnet. -/
def Area.subnetCount (area : Area) (ipid : UChar) : ℕ :=
  ((area.buildList.filter (·.IPID = ipid)).map Build.rangeCount).sum

section Counts

variable {cell : Cell} {build : Build} {area : Area}

theorem calculationCellMachineNumber_eq (h : cell.Ordered) :
    calculationCellMachineNumber cell = (cell.deviceCount : ℤ) := by
  obtain ⟨hf, hr⟩ := h
  have hfloors : (cell.floors : ℤ) = cell.floorEnd.toNat - cell.floorBegin.toNat + 1 := by
    rw [Cell.floors]
    omega
  have hrooms : (cell.rooms : ℤ) = cell.roomEnd.toNat - cell.roomBegin.toNat + 1 := by
    rw [Cell.rooms]
    omega
  rw [calculationCellMachineNumber, Cell.deviceCount]
  push_cast
  rw [hfloors, hrooms]
  ring

theorem cellRangeMachineNumber_eq (h : cell.Ordered)
    (hle : cell.cellBegin.toNat ≤ cell.cellEnd.toNat) :
    cellRangeMachineNumber cell = (cell.rangeCount : ℤ) := by
  rw [cellRangeMachineNumber, calculationCellMachineNumber_eq h, Cell.rangeCount, Nat.cast_mul]
  congr 1
  omega

/-- The loop of `calculationBuildMachineNumber` is a sum. -/
theorem calculationBuildMachineNumber_eq_sum {R : Type} [CommRing R] (build : Build) :
    calculationBuildMachineNumber build =
      (build.model.cellList.map (cellRangeMachineNumber (R := R))).sum := by
  rw [calculationBuildMachineNumber, List.sum_eq_foldl, List.foldl_map]

/-- The devices of a building as counted in exact integers. -/
theorem calculationBuildMachineNumber_eq
    (h : ∀ c ∈ build.model.cellList, c.Ordered)
    (hle : ∀ c ∈ build.model.cellList, c.cellBegin.toNat ≤ c.cellEnd.toNat) :
    calculationBuildMachineNumber build = (build.deviceCount : ℤ) := by
  rw [calculationBuildMachineNumber_eq_sum, Build.deviceCount, Nat.cast_list_sum, List.map_map]
  congr 1
  exact List.map_congr_left fun c hc ↦ cellRangeMachineNumber_eq (h c hc) (hle c hc)

/-- A sum over an entry's range of buildings, in exact integers. -/
theorem buildRangeMachineNumber_eq
    (h : ∀ c ∈ build.model.cellList, c.Ordered)
    (hle : ∀ c ∈ build.model.cellList, c.cellBegin.toNat ≤ c.cellEnd.toNat)
    (hb : build.buildBegin.toNat ≤ build.buildEnd.toNat) :
    buildRangeMachineNumber build = (build.rangeCount : ℤ) := by
  rw [buildRangeMachineNumber, calculationBuildMachineNumber_eq h hle, Build.rangeCount,
    Nat.cast_mul]
  congr 1
  omega

/-- The loop over a subnet's buildings is a sum over them. -/
theorem subnetMachineNumber_eq_sum {R : Type} [CommRing R] (area : Area) (ipid : UChar) :
    subnetMachineNumber area ipid =
      ((area.buildList.filter (·.IPID = ipid)).map (buildRangeMachineNumber (R := R))).sum := by
  rw [subnetMachineNumber, List.sum_eq_foldl, List.foldl_map, List.foldl_filter]
  simp only [decide_eq_true_eq]

theorem Area.mem_subnet {ipid : UChar} :
    build ∈ area.buildList.filter (·.IPID = ipid) ↔ build ∈ area.buildList ∧ build.IPID = ipid := by
  simp

theorem Area.Ordered.subnetMachineNumber_eq (h : area.Ordered) (ipid : UChar) :
    subnetMachineNumber area ipid = (area.subnetCount ipid : ℤ) := by
  rw [subnetMachineNumber_eq_sum, Area.subnetCount, Nat.cast_list_sum, List.map_map]
  congr 1
  refine List.map_congr_left fun b hb ↦ ?_
  obtain ⟨hmem, -⟩ := Area.mem_subnet.1 hb
  exact buildRangeMachineNumber_eq (h.rooms b hmem) (h.cells b hmem).lo_le_hi
    (h.builds.lo_le_hi b hmem)

end Counts

/-! ### The numbering -/

section Numbering

variable {cell : Cell}

/-- The devices of one room. -/
def roomDevices (cell : Cell) (floor door : ℕ) : Set CellDevice :=
  {d | ∃ s, (1 ≤ s ∧ s ≤ cell.secondOutDoorCount.toNat) ∧ CellDevice.houseDoor floor door s = d} ∪
    {d | ∃ s, (1 ≤ s ∧ s ≤ cell.inDoorCount.toNat) ∧ CellDevice.indoor floor door s = d}

/-- The index of a device in its room. -/
def CellDevice.roomIndex (cell : Cell) : CellDevice → ℤ
  | outDoor sub => sub
  | houseDoor _ _ sub => sub
  | indoor _ _ sub => cell.secondOutDoorCount.toNat + sub

/-- In a room, the second doors come before the indoor stations. -/
theorem numbers_roomDevices (floor door : ℕ) :
    Numbers (CellDevice.roomIndex cell) (roomDevices cell floor door)
      (cell.secondOutDoorCount.toNat + cell.inDoorCount.toNat) := by
  refine Numbers.append (f := CellDevice.roomIndex cell)
    (g := fun d ↦ CellDevice.roomIndex cell d - cell.secondOutDoorCount.toNat)
    (Numbers.ofIndex fun s ↦ rfl) (Numbers.ofIndex fun s ↦ ?_) (fun _ _ ↦ rfl) fun d _ ↦ by omega
  show (cell.secondOutDoorCount.toNat + s : ℤ) - cell.secondOutDoorCount.toNat = s
  omega

/-- The place of a room's device past the cell doors. -/
theorem place_eq_of_mem_roomDevices {floor door : ℕ} {d : CellDevice}
    (hd : d ∈ roomDevices cell floor door) :
    d.place cell = (cell.outDoorCount.toNat : ℤ) +
      (cell.roomPlace floor door + CellDevice.roomIndex cell d) := by
  rcases hd with ⟨s, -, rfl⟩ | ⟨s, -, rfl⟩ <;> rfl

/-- The devices of a cell's rooms. -/
def roomedDevices (cell : Cell) : Set CellDevice :=
  {d | ∃ q < cell.floors, d ∈ {d | ∃ r < cell.rooms,
    d ∈ roomDevices cell (cell.floorBegin.toNat + q) (cell.roomBegin.toNat + r)}}

/-- The rooms are counted floor by floor. -/
theorem numbers_roomedDevices (h : cell.Ordered) :
    Numbers (fun d ↦ d.place cell - cell.outDoorCount.toNat) (roomedDevices cell)
      (cell.floors * (cell.rooms * (cell.secondOutDoorCount.toNat + cell.inDoorCount.toNat))) := by
  have hrooms : (cell.rooms : ℤ) = cell.roomEnd.toNat - cell.roomBegin.toNat + 1 := by
    have := h.2
    rw [Cell.rooms]
    omega
  -- the outer level counts the floors, the inner one the rooms of a floor
  refine Numbers.repeated
    (f := fun q d ↦ d.place cell - cell.outDoorCount.toNat -
      q * (cell.rooms * (cell.secondOutDoorCount.toNat + cell.inDoorCount.toNat) : ℕ))
    (fun q _ ↦ Numbers.repeated (f := fun _ d ↦ CellDevice.roomIndex cell d)
      (fun r _ ↦ numbers_roomDevices _ _) fun r _ d hd ↦ ?_) fun q _ d _ ↦ by ring
  rw [place_eq_of_mem_roomDevices hd, Cell.roomPlace]
  push_cast
  rw [hrooms]
  ring

theorem mem_roomedDevices_iff {d : CellDevice} (h : cell.Ordered) :
    d ∈ roomedDevices cell ↔ d.Configured cell ∧ ∀ s, d ≠ .outDoor s := by
  obtain ⟨hf, hr⟩ := h
  unfold roomedDevices roomDevices Cell.floors Cell.rooms
  constructor
  · rintro ⟨q, hq, r, hrr, ⟨s, hs, rfl⟩ | ⟨s, hs, rfl⟩⟩
    · exact ⟨⟨⟨⟨by omega, by omega⟩, by omega, by omega⟩, hs⟩, fun _ ↦ by simp⟩
    · exact ⟨⟨⟨⟨by omega, by omega⟩, by omega, by omega⟩, hs⟩, fun _ ↦ by simp⟩
  · rintro ⟨hd, hne⟩
    match d, hd, hne with
    | .outDoor s, _, hne => exact absurd rfl (hne s)
    | .houseDoor floor door s, ⟨⟨⟨hf1, hf2⟩, hr1, hr2⟩, hs⟩, _ =>
      refine ⟨floor - cell.floorBegin.toNat, by omega, door - cell.roomBegin.toNat, by omega,
        Or.inl ⟨s, hs, ?_⟩⟩
      congr 1 <;> omega
    | .indoor floor door s, ⟨⟨⟨hf1, hf2⟩, hr1, hr2⟩, hs⟩, _ =>
      refine ⟨floor - cell.floorBegin.toNat, by omega, door - cell.roomBegin.toNat, by omega,
        Or.inr ⟨s, hs, ?_⟩⟩
      congr 1 <;> omega

/-- **The devices of a cell are numbered consecutively.** -/
theorem numbers_cell (h : cell.Ordered) :
    Numbers (CellDevice.place cell) {d | d.Configured cell} cell.deviceCount := by
  have hset : {d : CellDevice | d.Configured cell} =
      {d | ∃ s, (1 ≤ s ∧ s ≤ cell.outDoorCount.toNat) ∧ CellDevice.outDoor s = d} ∪
        roomedDevices cell := by
    ext d
    simp only [Set.mem_union, mem_roomedDevices_iff h, Set.mem_ofPred_eq]
    constructor
    · intro hd
      by_cases hout : ∃ s, d = .outDoor s
      · obtain ⟨s, rfl⟩ := hout
        exact Or.inl ⟨s, hd, rfl⟩
      · exact Or.inr ⟨hd, fun s hs ↦ hout ⟨s, hs⟩⟩
    · rintro (⟨s, hs, rfl⟩ | ⟨hd, -⟩)
      · exact hs
      · exact hd
  rw [hset]
  exact Numbers.append (f := CellDevice.place cell) (Numbers.ofIndex fun s ↦ rfl)
    (numbers_roomedDevices h) (fun _ _ ↦ rfl) fun d _ ↦ by omega

/-- Cells that end before the device's cell contribute their counts. -/
theorem cellsPlace_append {R : Type} [CommRing R] {l₁ l₂ : List Cell} {d : BuildingDevice}
    (hl : ∀ c ∈ l₁, c.cellEnd.toNat < d.cell) :
    cellsPlace (l₁ ++ l₂) d = (l₁.map (cellRangeMachineNumber (R := R))).sum + cellsPlace l₂ d := by
  induction l₁ with
  | nil => simp
  | cons c l₁ ih =>
    rw [List.cons_append, cellsPlace, if_pos (hl c List.mem_cons_self),
      ih fun c' hc' ↦ hl c' (List.mem_cons_of_mem _ hc'), List.map_cons, List.sum_cons, add_assoc]

/-- Entries that end before the device's building contribute their counts. -/
theorem buildsPlace_append {R : Type} [CommRing R] {l₁ l₂ : List Build} {d : BuildingDevice}
    (hl : ∀ b ∈ l₁, b.buildEnd.toNat < d.build) :
    buildsPlace (l₁ ++ l₂) d =
      (l₁.map (buildRangeMachineNumber (R := R))).sum + buildsPlace l₂ d := by
  induction l₁ with
  | nil => simp
  | cons b l₁ ih =>
    rw [List.cons_append, buildsPlace, if_pos (hl b List.mem_cons_self),
      ih fun b' hb' ↦ hl b' (List.mem_cons_of_mem _ hb'), List.map_cons, List.sum_cons, add_assoc]

/-- The place in the cell that holds the device's cell number. -/
theorem cellsPlace_cons_of_contains {R : Type} [CommRing R] {rest : List Cell} {d : BuildingDevice}
    (hc : cell.Contains d.cell) :
    cellsPlace (cell :: rest) d =
      ((d.cell : R) - cell.cellBegin.toNat) * calculationCellMachineNumber cell +
        d.device.place cell := by
  rw [cellsPlace, if_neg (Nat.not_lt.2 hc.2)]

/-- The place in the entry that holds the device's building number. -/
theorem buildsPlace_cons_of_contains {R : Type} [CommRing R] {build : Build} {rest : List Build}
    {d : BuildingDevice} (hb : build.Contains d.build) :
    buildsPlace (build :: rest) d =
      ((d.build : R) - build.buildBegin.toNat) * calculationBuildMachineNumber build +
        cellsPlace build.model.cellList d := by
  rw [buildsPlace, if_neg (Nat.not_lt.2 hb.2)]

/-- The place in a building, around the cell entry of the device. -/
theorem cellsPlace_of_split {R : Type} [CommRing R] {l₁ l₂ : List Cell} {d : BuildingDevice}
    (hl₁ : ∀ c ∈ l₁, c.cellEnd.toNat < d.cell) (hc : cell.Contains d.cell) :
    cellsPlace (l₁ ++ cell :: l₂) d = (l₁.map (cellRangeMachineNumber (R := R))).sum +
      (((d.cell : R) - cell.cellBegin.toNat) * calculationCellMachineNumber cell +
        d.device.place cell) := by
  rw [cellsPlace_append hl₁, cellsPlace_cons_of_contains hc]

/-- The place in a subnet, around the building entry of the device. -/
theorem place_of_split {R : Type} [CommRing R] {area : Area} {build : Build} {l₁ l₂ : List Build}
    {d : BuildingDevice} (hl : area.buildList = l₁ ++ build :: l₂)
    (hl₁ : ∀ b ∈ l₁, b.buildEnd.toNat < d.build) (hb : build.Contains d.build) :
    d.place area build.IPID =
      ((l₁.filter (·.IPID = build.IPID)).map (buildRangeMachineNumber (R := R))).sum +
        (((d.build : R) - build.buildBegin.toNat) * calculationBuildMachineNumber build +
          cellsPlace build.model.cellList d) := by
  rw [BuildingDevice.place, hl, List.filter_append, List.filter_cons_of_pos (by simp),
    buildsPlace_append fun b hb' ↦ hl₁ b (List.mem_of_mem_filter hb'),
    buildsPlace_cons_of_contains hb]

/-- **The devices of a building are numbered consecutively.** -/
theorem numbers_build {cells : List Cell}
    (hcells : Increasing (fun c : Cell ↦ c.cellBegin.toNat) (fun c ↦ c.cellEnd.toNat) cells)
    (hrooms : ∀ c ∈ cells, c.Ordered) (n : ℕ) :
    Numbers (cellsPlace cells) {d | d.build = n ∧ d.ConfiguredCell cells}
      (cells.map Cell.rangeCount).sum := by
  have hset : {d : BuildingDevice | d.build = n ∧ d.ConfiguredCell cells} =
      {d | ∃ c ∈ cells, d ∈ {d : BuildingDevice |
        (c.cellBegin.toNat ≤ d.cell ∧ d.cell ≤ c.cellEnd.toNat) ∧
          d.build = n ∧ d.device.Configured c}} := by
    ext d
    simp only [Set.mem_ofPred_eq, BuildingDevice.ConfiguredCell, Cell.Contains]
    constructor
    · rintro ⟨hb, c, hc, hin, hd⟩
      exact ⟨c, hc, hin, hb, hd⟩
    · rintro ⟨c, hc, hin, hb, hd⟩
      exact ⟨hb, c, hc, hin, hd⟩
  rw [hset]
  -- the cells of an entry are numbered by ranges, the entries one after the other
  refine Numbers.list (f := fun c d ↦ ((d.cell : ℤ) - c.cellBegin.toNat) * c.deviceCount +
    d.device.place c) (fun c hc ↦ ?_) ?_
  · refine Numbers.range BuildingDevice.cell (f := fun d ↦ d.device.place c)
      (fun k _ _ ↦ (numbers_cell (hrooms c hc)).comp (e := BuildingDevice.device) ?_)
      fun d _ ↦ rfl
    refine ⟨fun d hd ↦ hd.2.2, ?_, fun x hx ↦ ⟨⟨n, k, x⟩, ⟨rfl, rfl, hx⟩, rfl⟩⟩
    rintro ⟨b₁, c₁, x⟩ ⟨rfl, rfl, -⟩ ⟨b₂, c₂, y⟩ ⟨hc₂, hb₂, -⟩ hxy
    cases hc₂
    cases hb₂
    cases hxy
    rfl
  · rintro l₁ c l₂ rfl d ⟨hin, -⟩
    have hc : c ∈ l₁ ++ c :: l₂ := List.mem_append_right _ List.mem_cons_self
    have hsum : (l₁.map (cellRangeMachineNumber (R := ℤ))).sum =
        ((l₁.map Cell.rangeCount).sum : ℕ) := by
      rw [Nat.cast_list_sum, List.map_map]
      congr 1
      refine List.map_congr_left fun c' hc' ↦ ?_
      have hmem : c' ∈ l₁ ++ c :: l₂ := List.mem_append_left _ hc'
      exact cellRangeMachineNumber_eq (hrooms c' hmem) (hcells.lo_le_hi c' hmem)
    rw [cellsPlace_append (hcells.around _ hin).1, cellsPlace_cons_of_contains hin,
      calculationCellMachineNumber_eq (hrooms c hc), hsum]

/-- **The building devices of a subnet are numbered consecutively.** -/
theorem numbers_configured {area : Area} (h : area.Ordered) (ipid : UChar) :
    Numbers (BuildingDevice.place area ipid) (configuredDevices area ipid)
      (area.subnetCount ipid) := by
  have hmem : ∀ b ∈ area.buildList.filter (·.IPID = ipid), b ∈ area.buildList := fun b hb ↦
    (Area.mem_subnet.1 hb).1
  have hbuilds : Increasing (fun b : Build ↦ b.buildBegin.toNat) (fun b ↦ b.buildEnd.toNat)
      (area.buildList.filter (·.IPID = ipid)) :=
    ⟨fun b hb ↦ h.builds.lo_le_hi b (hmem b hb), h.builds.pairwise.filter _⟩
  refine Numbers.list (f := fun b d ↦ ((d.build : ℤ) - b.buildBegin.toNat) * b.deviceCount +
    cellsPlace b.model.cellList d) (fun b hb ↦ ?_) ?_
  · exact Numbers.range BuildingDevice.build (f := cellsPlace b.model.cellList)
      (fun k _ _ ↦ numbers_build (h.cells b (hmem b hb)) (h.rooms b (hmem b hb)) k) fun d _ ↦ rfl
  · rintro l₁ b l₂ hl d ⟨hin, -⟩
    have hlmem : ∀ b' ∈ l₁ ++ b :: l₂, b' ∈ area.buildList := fun b' hb' ↦ hmem b' (hl ▸ hb')
    have hb := hlmem b (List.mem_append_right _ List.mem_cons_self)
    have hsum : (l₁.map (buildRangeMachineNumber (R := ℤ))).sum =
        ((l₁.map Build.rangeCount).sum : ℕ) := by
      rw [Nat.cast_list_sum, List.map_map]
      congr 1
      refine List.map_congr_left fun b' hb' ↦ ?_
      have := hlmem b' (List.mem_append_left _ hb')
      exact buildRangeMachineNumber_eq (h.rooms b' this) (h.cells b' this).lo_le_hi
        (h.builds.lo_le_hi b' this)
    rw [BuildingDevice.place, hl, buildsPlace_append ((hl ▸ hbuilds).around _ hin).1,
      buildsPlace_cons_of_contains hin,
      calculationBuildMachineNumber_eq (h.rooms b hb) (h.cells b hb).lo_le_hi, hsum]

end Numbering

end DoorIntercom
