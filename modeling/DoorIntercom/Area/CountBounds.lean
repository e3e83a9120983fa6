import DoorIntercom.Area.InitSpec
import DoorIntercom.Lib.CheckedInt

/-!
# Counting without overflow

The counting functions and the accumulation of `initMachineInfo` once more, in the order of
evaluation of the source and with C's `int`s that overflow (`CheckedInt 32`). Where the source
computes with an `unsigned int`, because an index of the code is one, a number that is no `int`
counts as an overflow too. What goes to `*machineInfo` does not depend on the number.

Without an overflow the number is the exact one (`approximates_numberDevice`). All that is computed
for an accepted code counts upwards, so it is enough that the two largest numbers fit: the devices
of the device's building, all of which are counted first, and its place in the subnet
(`countsInInt_iff`). The devices of one cell always fit, those of 256 cells need not.
-/

namespace DoorIntercom

namespace Checked

/-! ### The functions -/

/-- A byte, promoted to `int`. -/
def byte (b : UChar) : CheckedInt 32 := .ofInt b.toNat

/-- An index of a code. -/
def index (n : Word) : CheckedInt 32 := .ofInt n.toNat

/-- `calculationCellMachineNumber`. -/
def calculationCellMachineNumber (cell : Cell) : CheckedInt 32 :=
  (byte cell.floorEnd - byte cell.floorBegin + 1) * (byte cell.roomEnd - byte cell.roomBegin + 1) *
      (byte cell.inDoorCount + byte cell.secondOutDoorCount) +
    byte cell.outDoorCount

/-- The devices of all the cells of one entry. -/
def cellRangeMachineNumber (cell : Cell) : CheckedInt 32 :=
  (byte cell.cellEnd - byte cell.cellBegin + 1) * calculationCellMachineNumber cell

/-- `calculationBuildMachineNumber`. -/
def calculationBuildMachineNumber (build : Build) : CheckedInt 32 :=
  build.model.cellList.foldl
    (fun machineNumber cell ↦ machineNumber + cellRangeMachineNumber cell) 0

/-- The devices of all the buildings of one entry. -/
def buildRangeMachineNumber (build : Build) : CheckedInt 32 :=
  (byte build.buildEnd - byte build.buildBegin + 1) * calculationBuildMachineNumber build

/-- The loop over all the buildings of a subnet. -/
def subnetMachineNumber (area : Area) (ipid : UChar) : CheckedInt 32 :=
  area.buildList.foldl (fun machineNumber build ↦
    if build.IPID = ipid then machineNumber + buildRangeMachineNumber build else machineNumber) 0

/-- What is added for a device of the area. -/
def guardOffset (c : CodeFields) (area : Area) : Fin 3 → CheckedInt 32
  | 0 => byte c.subMachineIndex
  | 1 => byte (area.guard 0).indexEnd - byte (area.guard 0).indexBegin + 1 + byte c.subMachineIndex
  | 2 => byte (area.guard 0).indexEnd - byte (area.guard 0).indexBegin + 1 +
      byte (area.guard 1).indexEnd - byte (area.guard 1).indexBegin + 1 + byte c.subMachineIndex

/-- What is added in the device's cell. -/
def numberInCell (type : DeviceType) (c : CodeFields) (cell : Cell) : CheckedInt 32 :=
  match type with
  | .room =>
    byte cell.outDoorCount +
          (byte c.floorIndex - byte cell.floorBegin) *
              (byte cell.roomEnd - byte cell.roomBegin + 1) *
            (byte cell.inDoorCount + byte cell.secondOutDoorCount) +
          (byte c.doorIndex - byte cell.roomBegin) *
            (byte cell.inDoorCount + byte cell.secondOutDoorCount) +
        byte cell.secondOutDoorCount +
      byte c.subMachineIndex
  | .cellDoor => byte c.subMachineIndex
  | .houseDoor =>
    byte cell.outDoorCount +
          (byte c.floorIndex - byte cell.floorBegin) *
              (byte cell.roomEnd - byte cell.roomBegin + 1) *
            (byte cell.inDoorCount + byte cell.secondOutDoorCount) +
        (byte c.doorIndex - byte cell.roomBegin) *
          (byte cell.inDoorCount + byte cell.secondOutDoorCount) +
      byte c.subMachineIndex
  | _ => 0

/-- The loop over the cells of the device's building. -/
def numberCells (type : DeviceType) (c : CodeFields) : List Cell → CheckedInt 32 → CheckedInt 32
  | [], machineNumber => machineNumber
  | cell :: rest, machineNumber =>
    if c.cellIndex.toNat > cell.cellEnd.toNat then
      numberCells type c rest (machineNumber + cellRangeMachineNumber cell)
    else if c.cellIndex.toNat ≥ cell.cellBegin.toNat ∧ c.cellIndex.toNat ≤ cell.cellEnd.toNat then
      machineNumber +
          (index c.cellIndex - byte cell.cellBegin) * calculationCellMachineNumber cell +
        numberInCell type c cell
    else numberCells type c rest machineNumber

/-- The loop over the buildings of the device's subnet. -/
def numberBuilds (type : DeviceType) (c : CodeFields) (ipid : UChar) :
    List Build → CheckedInt 32 → CheckedInt 32
  | [], machineNumber => machineNumber
  | build :: rest, machineNumber =>
    numberBuilds type c ipid rest <|
      if build.IPID = ipid then
        if c.buildIndex.toNat > build.buildEnd.toNat then
          machineNumber + buildRangeMachineNumber build
        else if c.buildIndex.toNat ≥ build.buildBegin.toNat ∧
            c.areaIndex.toNat ≤ build.buildEnd.toNat then
          numberCells type c build.model.cellList
            (machineNumber +
              (index c.buildIndex - byte build.buildBegin) * calculationBuildMachineNumber build)
        else machineNumber
      else machineNumber

/-- The numbering switch of `initMachineInfo`. -/
def numberDevice (machineCode : ULongLong) (area : Area) (machineInfo : MachineInfo) :
    CheckedInt 32 :=
  let c := praseMachineCode machineCode
  match DeviceType.ofValue c.machineIndex with
  | none => 0
  | some type =>
    match guardIndex type with
    | some g => subnetMachineNumber area (area.guard g).IPID + guardOffset c area g
    | none =>
      numberBuilds type c (searchIpid c machineInfo.ipid area.buildList) area.buildList 0

/-! ### Exactness -/

section Exact

open CheckedInt

variable {type : DeviceType} {c : CodeFields}

/-- The length of a range. -/
theorem approximates_span (hi lo : UChar) :
    Approximates (byte hi - byte lo + 1) ((hi.toNat : ℤ) - lo.toNat + 1) :=
  ((Approximates.ofInt _).sub (.ofInt _)).add (.ofInt 1)

theorem approximates_cell (cell : Cell) :
    Approximates (calculationCellMachineNumber cell)
      (DoorIntercom.calculationCellMachineNumber cell) :=
  (((approximates_span _ _).mul (approximates_span _ _)).mul
    ((Approximates.ofInt _).add (.ofInt _))).add (.ofInt _)

theorem approximates_cellRange (cell : Cell) :
    Approximates (cellRangeMachineNumber cell) (DoorIntercom.cellRangeMachineNumber cell) :=
  (approximates_span _ _).mul (approximates_cell cell)

theorem approximates_build (build : Build) :
    Approximates (calculationBuildMachineNumber build)
      (DoorIntercom.calculationBuildMachineNumber build) :=
  Approximates.foldl _ (fun cell _ ↦ approximates_cellRange cell) (.ofInt 0)

theorem approximates_buildRange (build : Build) :
    Approximates (buildRangeMachineNumber build) (DoorIntercom.buildRangeMachineNumber build) :=
  (approximates_span _ _).mul (approximates_build build)

/-- The loop over a subnet's buildings adds up those of the subnet. -/
theorem subnetMachineNumber_eq_foldl (area : Area) (ipid : UChar) :
    subnetMachineNumber area ipid = (area.buildList.filter (·.IPID = ipid)).foldl
      (fun machineNumber build ↦ machineNumber + buildRangeMachineNumber build) 0 := by
  rw [subnetMachineNumber, List.foldl_filter]
  simp only [decide_eq_true_eq]

theorem approximates_subnet (area : Area) (ipid : UChar) :
    Approximates (subnetMachineNumber area ipid) (DoorIntercom.subnetMachineNumber area ipid) := by
  rw [subnetMachineNumber_eq_foldl, DoorIntercom.subnetMachineNumber_eq_sum, List.sum_eq_foldl,
    List.foldl_map]
  exact Approximates.foldl _ (fun build _ ↦ approximates_buildRange build) (.ofInt 0)

theorem approximates_guardOffset (c : CodeFields) (area : Area) (g : Fin 3) :
    Approximates (guardOffset c area g)
      (DoorIntercom.guardOffset area g + c.subMachineIndex.toNat) := by
  match g with
  | 0 =>
    rw [DoorIntercom.guardOffset, zero_add]
    exact .ofInt _
  | 1 => exact (approximates_span _ _).add (.ofInt _)
  | 2 =>
    rw [DoorIntercom.guardOffset, guardCount, guardCount,
      show ∀ a b d e : ℤ, a + (b - d + 1) + e = a + b - d + 1 + e from fun _ _ _ _ ↦ by ring]
    exact ((((approximates_span _ _).add (.ofInt _)).sub (.ofInt _)).add (.ofInt 1)).add (.ofInt _)

/-- The devices of a cell before a room. -/
theorem approximates_roomOffset (c : CodeFields) (cell : Cell) :
    Approximates (byte cell.outDoorCount +
        (byte c.floorIndex - byte cell.floorBegin) *
            (byte cell.roomEnd - byte cell.roomBegin + 1) *
          (byte cell.inDoorCount + byte cell.secondOutDoorCount) +
        (byte c.doorIndex - byte cell.roomBegin) *
          (byte cell.inDoorCount + byte cell.secondOutDoorCount))
      (cell.outDoorCount.toNat + roomOffset c cell) := by
  have hdevices : Approximates (byte cell.inDoorCount + byte cell.secondOutDoorCount)
      ((cell.inDoorCount.toNat : ℤ) + cell.secondOutDoorCount.toNat) :=
    (Approximates.ofInt _).add (.ofInt _)
  rw [roomOffset, ← add_assoc]
  exact ((Approximates.ofInt _).add ((((Approximates.ofInt _).sub (.ofInt _)).mul
    (approximates_span _ _)).mul hdevices)).add
      (((Approximates.ofInt _).sub (.ofInt _)).mul hdevices)

variable {x : CheckedInt 32} {s : ℤ × MachineInfo}

theorem approximates_inCell (type : DeviceType) (c : CodeFields) (cell : Cell)
    (hx : Approximates x s.1) :
    Approximates (x + numberInCell type c cell) (DoorIntercom.numberInCell type c cell s).1 := by
  have hsame : Approximates (x + 0) s.1 := by
    have hadd := hx.add (.ofInt 0)
    rwa [add_zero] at hadd
  cases type with
  | room => exact hx.add (((approximates_roomOffset c cell).add (.ofInt _)).add (.ofInt _))
  | cellDoor => exact hx.add (.ofInt _)
  | houseDoor => exact hx.add ((approximates_roomOffset c cell).add (.ofInt _))
  | monitor => exact hsame
  | guard => exact hsame
  | areaDoor => exact hsame
  | manager => exact hsame

theorem approximates_numberCells (cells : List Cell) (hx : Approximates x s.1) :
    Approximates (numberCells type c cells x) (DoorIntercom.numberCells type c cells s).1 := by
  induction cells generalizing x s with
  | nil => exact hx
  | cons cell rest ih =>
    rw [numberCells, DoorIntercom.numberCells]
    split_ifs
    · exact ih (s := (_, s.2)) (hx.add (approximates_cellRange cell))
    · refine approximates_inCell type c cell (s := (_, s.2)) ?_
      exact hx.add (((Approximates.ofInt _).sub (.ofInt _)).mul (approximates_cell cell))
    · exact ih hx

/-- The cell loop does not change the subnet. -/
theorem ipid_numberCells (cells : List Cell) (s : ℤ × MachineInfo) :
    (DoorIntercom.numberCells type c cells s).2.ipid = s.2.ipid := by
  induction cells generalizing s with
  | nil => rfl
  | cons cell rest ih =>
    rw [DoorIntercom.numberCells]
    split_ifs
    · exact ih _
    · cases type <;> rfl
    · exact ih _

theorem approximates_numberBuilds {ipid : UChar} (builds : List Build) (hip : s.2.ipid = ipid)
    (hx : Approximates x s.1) :
    Approximates (numberBuilds type c ipid builds x)
      (DoorIntercom.numberBuilds type c builds s).1 := by
  induction builds generalizing x s with
  | nil => exact hx
  | cons build rest ih =>
    rw [numberBuilds, DoorIntercom.numberBuilds, hip]
    split_ifs
    · exact ih (s := (_, s.2)) hip (hx.add (approximates_buildRange build))
    · refine ih ((ipid_numberCells ..).trans hip) (approximates_numberCells (s := (_, s.2)) _ ?_)
      exact hx.add (((Approximates.ofInt _).sub (.ofInt _)).mul (approximates_build build))
    · exact ih hip hx
    · exact ih hip hx

/-- **Without an overflow** the machine number is the exact one. -/
theorem approximates_numberDevice (machineCode : ULongLong) (area : Area)
    (machineInfo : MachineInfo) :
    Approximates (numberDevice machineCode area machineInfo)
      (DoorIntercom.numberDevice machineCode area machineInfo).1 := by
  rw [numberDevice, DoorIntercom.numberDevice]
  cases DeviceType.ofValue (praseMachineCode machineCode).machineIndex with
  | none => exact .ofInt 0
  | some type =>
    cases hg : guardIndex type with
    | none =>
      simp only [hg]
      exact approximates_numberBuilds (s := (0, { machineInfo with
        machineCode := machineCode
        ipid := searchIpid _ machineInfo.ipid area.buildList })) area.buildList rfl (.ofInt 0)
    | some g =>
      simp only [hg]
      exact (approximates_subnet area _).add (approximates_guardOffset _ area g)

end Exact

/-! ### Counting -/

section Count

open CheckedInt

variable {c : CodeFields} {cell : Cell} {build : Build} {area : Area}

theorem fits_iff {a : ℤ} : CheckedInt.Fits 32 a ↔ -2 ^ 31 ≤ a ∧ a < 2 ^ 31 := Iff.rfl

theorem value?_byte (b : UChar) : (byte b).value? = some (b.toNat : ℤ) := by
  have hb := b.isLt
  exact value?_ofInt (fits_iff.2 (by omega))

theorem counts_byte (b : UChar) : Counts (byte b) b.toNat := Counts.ofInt (Int.natCast_nonneg _)

theorem value?_diff (hi lo : UChar) :
    (byte hi - byte lo).value? = some ((hi.toNat : ℤ) - lo.toNat) := by
  have hhi := hi.isLt
  have hlo := lo.isLt
  exact value?_sub (value?_byte hi) (value?_byte lo) (fits_iff.2 (by omega))

theorem value?_span (hi lo : UChar) :
    (byte hi - byte lo + 1).value? = some ((hi.toNat : ℤ) - lo.toNat + 1) := by
  have hhi := hi.isLt
  have hlo := lo.isLt
  exact value?_add (value?_diff hi lo) (value?_ofInt (by decide)) (fits_iff.2 (by omega))

/-- The product of two numbers within bounds. -/
theorem mul_mem {a b A B : ℤ} (ha : 0 ≤ a ∧ a ≤ A) (hb : 0 ≤ b ∧ b ≤ B) :
    0 ≤ a * b ∧ a * b ≤ A * B :=
  ⟨mul_nonneg ha.1 hb.1, mul_le_mul ha.2 hb.2 hb.1 (ha.1.trans ha.2)⟩

/-- The product of a number of floors and the number of rooms of one. -/
theorem value?_mul_rooms (cell : Cell) {x : CheckedInt 32} {a : ℤ} (hx : x.value? = some a)
    (ha : 0 ≤ a ∧ a ≤ 256) (hr : cell.roomBegin.toNat ≤ cell.roomEnd.toNat) :
    (x * (byte cell.roomEnd - byte cell.roomBegin + 1)).value? =
        some (a * ((cell.roomEnd.toNat : ℤ) - cell.roomBegin.toNat + 1)) ∧
      0 ≤ a * ((cell.roomEnd.toNat : ℤ) - cell.roomBegin.toNat + 1) ∧
        a * ((cell.roomEnd.toNat : ℤ) - cell.roomBegin.toNat + 1) ≤ 256 * 256 := by
  have hroom := cell.roomEnd.isLt
  have hmem := mul_mem ha (b := (cell.roomEnd.toNat : ℤ) - cell.roomBegin.toNat + 1) (B := 256)
    (by omega)
  exact ⟨value?_mul hx (value?_span _ _) (fits_iff.2 (by omega)), hmem⟩

theorem counts_devices (cell : Cell) :
    Counts (byte cell.inDoorCount + byte cell.secondOutDoorCount)
      ((cell.inDoorCount.toNat : ℤ) + cell.secondOutDoorCount.toNat) :=
  (counts_byte _).add (counts_byte _)

theorem devices_le (cell : Cell) :
    (cell.inDoorCount.toNat : ℤ) + cell.secondOutDoorCount.toNat ≤ 510 := by
  have hin := cell.inDoorCount.isLt
  have hsecond := cell.secondOutDoorCount.isLt
  omega

theorem counts_cell (h : cell.Ordered) :
    Counts (calculationCellMachineNumber cell)
      (DoorIntercom.calculationCellMachineNumber cell) := by
  have hfloor := cell.floorEnd.isLt
  have hdevices := devices_le cell
  obtain ⟨hvalue, hnonneg, -⟩ := value?_mul_rooms cell (value?_span cell.floorEnd cell.floorBegin)
    (by have := h.1; omega) h.2
  exact (Counts.mul hvalue hnonneg (counts_devices cell) (Or.inr (by omega))).add (counts_byte _)

/-- **The devices of one cell** always fit. -/
theorem cell_lt (h : cell.Ordered) :
    DoorIntercom.calculationCellMachineNumber cell < (2 ^ 31 : ℤ) := by
  have hfloor := cell.floorEnd.isLt
  have hout := cell.outDoorCount.isLt
  obtain ⟨-, hrooms⟩ := value?_mul_rooms cell (value?_span cell.floorEnd cell.floorBegin)
    (by have := h.1; omega) h.2
  have hle := (mul_mem hrooms ⟨(counts_devices cell).nonneg, devices_le cell⟩).2
  rw [DoorIntercom.calculationCellMachineNumber]
  omega

theorem counts_cellRange (h : cell.Ordered) (hle : cell.cellBegin.toNat ≤ cell.cellEnd.toNat) :
    Counts (cellRangeMachineNumber cell) (DoorIntercom.cellRangeMachineNumber cell) :=
  Counts.mul (value?_span _ _) (by omega) (counts_cell h) (Or.inl (by omega))

/-- The cells and rooms of a building have their ranges in order. -/
def BuildOrdered (build : Build) : Prop :=
  ∀ cell ∈ build.model.cellList, cell.Ordered ∧ cell.cellBegin.toNat ≤ cell.cellEnd.toNat

theorem counts_build (h : BuildOrdered build) :
    Counts (calculationBuildMachineNumber build)
      (DoorIntercom.calculationBuildMachineNumber build) := by
  rw [DoorIntercom.calculationBuildMachineNumber_eq_sum, ← zero_add (List.sum _)]
  exact Counts.foldl _ (fun cell hcell ↦ counts_cellRange (h cell hcell).1 (h cell hcell).2)
    (Counts.ofInt (le_refl 0))

theorem counts_buildRange (h : BuildOrdered build)
    (hle : build.buildBegin.toNat ≤ build.buildEnd.toNat) :
    Counts (buildRangeMachineNumber build) (DoorIntercom.buildRangeMachineNumber build) :=
  Counts.mul (value?_span _ _) (by omega) (counts_build h) (Or.inl (by omega))

theorem counts_buildRanges (builds : List Build) {x : CheckedInt 32} {a : ℤ} (hx : Counts x a)
    (h : ∀ build ∈ builds, BuildOrdered build ∧ build.buildBegin.toNat ≤ build.buildEnd.toNat) :
    Counts (builds.foldl (fun machineNumber build ↦
        machineNumber + buildRangeMachineNumber build) x)
      (a + (builds.map DoorIntercom.buildRangeMachineNumber).sum) :=
  hx.foldl _ fun build hbuild ↦ counts_buildRange (h build hbuild).1 (h build hbuild).2

/-! ### A device of the area -/

theorem value?_guardOffset (c : CodeFields) (area : Area) (g : Fin 3) :
    (guardOffset c area g).value? =
        some (DoorIntercom.guardOffset area g + c.subMachineIndex.toNat : ℤ) ∧
      -1024 ≤ DoorIntercom.guardOffset area g + (c.subMachineIndex.toNat : ℤ) := by
  have hsub := c.subMachineIndex.isLt
  have hbegin₀ := (area.guard 0).indexBegin.isLt
  have hend₀ := (area.guard 0).indexEnd.isLt
  have hbegin₁ := (area.guard 1).indexBegin.isLt
  have hend₁ := (area.guard 1).indexEnd.isLt
  match g with
  | 0 =>
    simp only [guardOffset, DoorIntercom.guardOffset, zero_add]
    exact ⟨value?_byte _, by omega⟩
  | 1 =>
    simp only [guardOffset, DoorIntercom.guardOffset, guardCount]
    exact ⟨value?_add (value?_span _ _) (value?_byte _) (fits_iff.2 (by omega)), by omega⟩
  | 2 =>
    have hsum := value?_add (value?_span (area.guard 0).indexEnd (area.guard 0).indexBegin)
      (value?_byte (area.guard 1).indexEnd) (fits_iff.2 (by omega))
    have hdiff := value?_sub hsum (value?_byte (area.guard 1).indexBegin) (fits_iff.2 (by omega))
    have hcount := value?_add hdiff (value?_ofInt (a := 1) (by decide)) (fits_iff.2 (by omega))
    have hvalue := value?_add hcount (value?_byte c.subMachineIndex) (fits_iff.2 (by omega))
    -- the summands are in another order, but the number is the exact one
    have heq := approximates_guardOffset c area 2 _ hvalue
    exact ⟨heq ▸ hvalue, by rw [← heq]; omega⟩

/-! ### A device of a building -/

theorem value?_index_diff {n : Word} {lo hi : UChar} (h : lo.toNat ≤ n.toNat ∧ n.toNat ≤ hi.toNat) :
    (index n - byte lo).value? = some ((n.toNat : ℤ) - lo.toNat) := by
  have hhi := hi.isLt
  exact value?_sub (value?_ofInt (fits_iff.2 (by omega))) (value?_byte lo) (fits_iff.2 (by omega))

theorem counts_roomOffset (h : cell.HasRoom c.floorIndex.toNat c.doorIndex.toNat) :
    Counts (byte cell.outDoorCount +
        (byte c.floorIndex - byte cell.floorBegin) *
            (byte cell.roomEnd - byte cell.roomBegin + 1) *
          (byte cell.inDoorCount + byte cell.secondOutDoorCount) +
        (byte c.doorIndex - byte cell.roomBegin) *
          (byte cell.inDoorCount + byte cell.secondOutDoorCount))
      (cell.outDoorCount.toNat + roomOffset c cell) := by
  obtain ⟨hfloor, hdoor⟩ := h
  have hfloorEnd := cell.floorEnd.isLt
  have hdevices := devices_le cell
  obtain ⟨hvalue, hnonneg, -⟩ := value?_mul_rooms cell
    (value?_diff c.floorIndex cell.floorBegin) (by omega) (by omega)
  rw [roomOffset, ← add_assoc]
  exact ((counts_byte _).add
    (Counts.mul hvalue hnonneg (counts_devices cell) (Or.inr (by omega)))).add
      (Counts.mul (value?_diff _ _) (by omega) (counts_devices cell) (Or.inr (by omega)))

variable {type : DeviceType} {d : CellDevice}

/-- What is added in the device's cell is its place there. -/
theorem counts_inCell (hd : cellDeviceOf type c = some d) (hconf : d.Configured cell) :
    Counts (numberInCell type c cell) (d.place cell) := by
  cases type <;> cases hd
  case cellDoor => exact counts_byte _
  case room =>
    have hplace : (CellDevice.indoor c.floorIndex.toNat c.doorIndex.toNat
        c.subMachineIndex.toNat).place cell = (cell.outDoorCount.toNat + roomOffset c cell +
          cell.secondOutDoorCount.toNat + c.subMachineIndex.toNat : ℤ) := by
      simp only [CellDevice.place, Cell.roomPlace, roomOffset]
      ring
    rw [hplace]
    exact ((counts_roomOffset hconf.1).add (counts_byte _)).add (counts_byte _)
  case houseDoor =>
    have hplace : (CellDevice.houseDoor c.floorIndex.toNat c.doorIndex.toNat
        c.subMachineIndex.toNat).place cell =
          (cell.outDoorCount.toNat + roomOffset c cell + c.subMachineIndex.toNat : ℤ) := by
      simp only [CellDevice.place, Cell.roomPlace, roomOffset]
      ring
    rw [hplace]
    exact (counts_roomOffset hconf.1).add (counts_byte _)

/-- The cell loop adds the cells before the device's, and leaves at the device's. -/
theorem numberCells_split {l₁ l₂ : List Cell}
    (hl₁ : ∀ cell ∈ l₁, cell.cellEnd.toNat < c.cellIndex.toNat)
    (hc : cell.Contains c.cellIndex.toNat) (x : CheckedInt 32) :
    numberCells type c (l₁ ++ cell :: l₂) x =
      l₁.foldl (fun machineNumber cell ↦ machineNumber + cellRangeMachineNumber cell) x +
          (index c.cellIndex - byte cell.cellBegin) * calculationCellMachineNumber cell +
        numberInCell type c cell := by
  induction l₁ generalizing x with
  | nil => rw [List.nil_append, numberCells, if_neg (Nat.not_lt.2 hc.2), if_pos ⟨hc.1, hc.2⟩]; rfl
  | cons cell' l₁ ih =>
    rw [List.forall_mem_cons] at hl₁
    rw [List.cons_append, numberCells, if_pos hl₁.1, ih hl₁.2]
    rfl

/-- **The cell loop** counts the place of the device in its building. -/
theorem counts_numberCells {x : CheckedInt 32} {a : ℤ} (hx : Counts x a) (h : BuildOrdered build)
    (hcells : Increasing (fun cell : Cell ↦ cell.cellBegin.toNat) (fun cell ↦ cell.cellEnd.toNat)
      build.model.cellList) (hcell : cell ∈ build.model.cellList)
    (hc : cell.Contains c.cellIndex.toNat) (hd : cellDeviceOf type c = some d)
    (hconf : d.Configured cell) :
    Counts (numberCells type c build.model.cellList x)
      (a + cellsPlace build.model.cellList (placedDevice c d)) := by
  obtain ⟨l₁, l₂, hl, hl₁, -⟩ := hcells.split hcell hc
  have hbefore : ∀ cell ∈ l₁, cell ∈ build.model.cellList := fun cell hcell ↦ by
    rw [hl]
    exact List.mem_append_left _ hcell
  have hown : Counts ((index c.cellIndex - byte cell.cellBegin) * calculationCellMachineNumber cell)
      (((c.cellIndex.toNat : ℤ) - cell.cellBegin.toNat) *
        DoorIntercom.calculationCellMachineNumber cell) :=
    Counts.mul (value?_index_diff hc) (by have := hc.1; omega) (counts_cell (h cell hcell).1)
      (Or.inr (cell_lt (h cell hcell).1))
  rw [hl, numberCells_split hl₁ hc, cellsPlace_of_split (d := placedDevice c d) hl₁ hc, ← add_assoc,
    ← add_assoc]
  exact ((hx.foldl l₁ fun cell hcell ↦ counts_cellRange (h cell (hbefore cell hcell)).1
    (h cell (hbefore cell hcell)).2).add hown).add (counts_inCell hd hconf)

/-- After an overflow, the cell loop does not find back to a number. -/
theorem numberCells_of_none {cells : List Cell} {x : CheckedInt 32} (hx : x.value? = none) :
    (numberCells type c cells x).value? = none := by
  induction cells generalizing x with
  | nil => exact hx
  | cons cell rest ih =>
    rw [numberCells]
    split_ifs
    · exact ih (value?_add_of_none (Or.inl hx))
    · exact value?_add_of_none (Or.inl (value?_add_of_none (Or.inl hx)))
    · exact ih hx

/-- The building loop adds the entries of the subnet before the device's. -/
theorem numberBuilds_append {ipid : UChar} {l₁ : List Build} (l₂ : List Build)
    (hl₁ : ∀ build ∈ l₁, build.buildEnd.toNat < c.buildIndex.toNat) (x : CheckedInt 32) :
    numberBuilds type c ipid (l₁ ++ l₂) x = numberBuilds type c ipid l₂
      ((l₁.filter (·.IPID = ipid)).foldl (fun machineNumber build ↦
        machineNumber + buildRangeMachineNumber build) x) := by
  induction l₁ generalizing x with
  | nil => rfl
  | cons build l₁ ih =>
    rw [List.forall_mem_cons] at hl₁
    rw [List.cons_append, numberBuilds, if_pos hl₁.1, ih hl₁.2]
    by_cases hip : build.IPID = ipid
    · rw [if_pos hip, List.filter_cons_of_pos (by simpa using hip)]
      rfl
    · rw [if_neg hip, List.filter_cons_of_neg (by simpa using hip)]

/-- It does nothing at entries that begin after the device's building. -/
theorem numberBuilds_of_lt {ipid : UChar} {l : List Build}
    (hl : ∀ build ∈ l, c.buildIndex.toNat < build.buildBegin.toNat ∧
      build.buildBegin.toNat ≤ build.buildEnd.toNat) (x : CheckedInt 32) :
    numberBuilds type c ipid l x = x := by
  induction l generalizing x with
  | nil => rfl
  | cons build l ih =>
    rw [List.forall_mem_cons] at hl
    have hpast : ¬ c.buildIndex.toNat > build.buildEnd.toNat := by omega
    have hin : ¬ (c.buildIndex.toNat ≥ build.buildBegin.toNat ∧
        c.areaIndex.toNat ≤ build.buildEnd.toNat) := by omega
    rw [numberBuilds, if_neg hpast, if_neg hin, ite_self]
    exact ih hl.2 x

end Count

end Checked

/-! ### The accepted codes -/

/-- Every sum, difference and product that `initMachineInfo` computes for the machine number is an
`int`. -/
def CountsInInt (machineCode : ULongLong) (area : Area) (machineInfo : MachineInfo) : Prop :=
  (Checked.numberDevice machineCode area machineInfo).value?.isSome

/-- What is counted for a building device is less than `2 ^ 31`: the devices of its building, and
its place in the subnet. If the area index exceeds the end of its entry, only the entries before it
with the `IPID` that `*machineInfo` held before are counted. -/
def BuildingDevice.PlaceFits (d : BuildingDevice) (area : Area) (areaIndex : ℕ) (ipid : UChar) :
    Prop :=
  ∀ build ∈ area.buildList, build.Contains d.build →
    if areaIndex ≤ build.buildEnd.toNat then
      build.deviceCount < 2 ^ 31 ∧ d.place area build.IPID < (2 ^ 31 : ℤ)
    else
      ((area.buildList.filter fun b ↦ b.IPID = ipid ∧ b.buildEnd.toNat < d.build).map
        Build.rangeCount).sum < 2 ^ 31

/-- What is counted for a device is less than `2 ^ 31`; for a device of the area, the building
devices of its subnet, and its place after them. -/
def PlaceFits (area : Area) (machineCode : ULongLong) (ipid : UChar) : Prop :=
  match deviceOf (praseMachineCode machineCode) with
  | some (.building d) =>
    d.PlaceFits area (praseMachineCode machineCode).areaIndex.toNat ipid
  | some (.area g sub) =>
    area.subnetCount (area.guard g).IPID < 2 ^ 31 ∧
      area.subnetCount (area.guard g).IPID + (guardOffset area g + sub) < (2 ^ 31 : ℤ)
  | none => True

section Accepted

open CheckedInt Checked

variable {area : Area} {machineCode : ULongLong} {type : DeviceType} {c : CodeFields}
  {d : CellDevice} {build : Build}

/-- The accepted types. -/
theorem exists_type_of_accepted (h : checkParameters c area = .ok true) :
    ∃ type, DeviceType.ofValue c.machineIndex = some type ∧
      ((∃ g, guardIndex type = some g) ∨ ∃ d, cellDeviceOf type c = some d) := by
  rw [checkParameters] at h
  cases htype : DeviceType.ofValue c.machineIndex with
  | none =>
    rw [htype] at h
    cases h
  | some type =>
    refine ⟨type, rfl, ?_⟩
    cases type with
    | monitor =>
      rw [htype] at h
      cases h
    | room | cellDoor | houseDoor => exact Or.inr ⟨_, rfl⟩
    | guard | areaDoor | manager => exact Or.inl ⟨_, rfl⟩

section Ordered

variable (h : area.RangesOrdered)
  (hrooms : ∀ build ∈ area.buildList, ∀ cell ∈ build.model.cellList, cell.Ordered)
include h hrooms

theorem buildOrdered (hmem : build ∈ area.buildList) : BuildOrdered build :=
  fun cell hcell ↦ ⟨hrooms build hmem cell hcell, (h.cells build hmem).lo_le_hi cell hcell⟩

theorem sum_buildRanges {builds : List Build} (hbuilds : ∀ build ∈ builds, build ∈ area.buildList) :
    (builds.map DoorIntercom.buildRangeMachineNumber).sum =
      ((builds.map Build.rangeCount).sum : ℤ) := by
  rw [Nat.cast_list_sum, List.map_map]
  congr 1
  refine List.map_congr_left fun build hbuild ↦ ?_
  have hmem := hbuilds build hbuild
  exact buildRangeMachineNumber_eq (hrooms build hmem) (h.cells build hmem).lo_le_hi
    (h.builds.lo_le_hi build hmem)

/-- **The entries before the device's** are counted. -/
theorem counts_before {l₁ l₂ : List Build} (hl : area.buildList = l₁ ++ l₂) (ipid : UChar) :
    Counts ((l₁.filter (·.IPID = ipid)).foldl (fun machineNumber build ↦
        machineNumber + Checked.buildRangeMachineNumber build) 0)
      (((l₁.filter (·.IPID = ipid)).map DoorIntercom.buildRangeMachineNumber).sum) := by
  have hcounts := counts_buildRanges (l₁.filter (·.IPID = ipid))
    (Counts.ofInt (le_refl 0)) fun build hbuild ↦ by
      have hmem : build ∈ area.buildList := by
        rw [hl]
        exact List.mem_append_left _ (List.mem_of_mem_filter hbuild)
      exact ⟨buildOrdered h hrooms hmem, h.builds.lo_le_hi build hmem⟩
  rwa [zero_add] at hcounts

/-- **A device of the area.** -/
theorem isSome_area_iff (c : CodeFields) (g : Fin 3) :
    (Checked.subnetMachineNumber area (area.guard g).IPID +
        Checked.guardOffset c area g).value?.isSome ↔
      area.subnetCount (area.guard g).IPID < 2 ^ 31 ∧
        area.subnetCount (area.guard g).IPID +
          (guardOffset area g + c.subMachineIndex.toNat) < (2 ^ 31 : ℤ) := by
  obtain ⟨hvalue, hle⟩ := value?_guardOffset c area g
  have hsubnet := counts_before h hrooms (List.append_nil area.buildList).symm (area.guard g).IPID
  rw [← Checked.subnetMachineNumber_eq_foldl, sum_buildRanges h hrooms
    fun build hbuild ↦ List.mem_of_mem_filter hbuild, ← Area.subnetCount] at hsubnet
  rw [isSome_add_iff hvalue]
  constructor
  · rintro ⟨a, ha, hfits⟩
    have hlt := hsubnet.isSome_iff.1 (Option.isSome_of_mem ha)
    rw [hsubnet.of_lt hlt] at ha
    cases ha
    exact ⟨by exact_mod_cast hlt, hfits.2⟩
  · rintro ⟨hlt, hsum⟩
    exact ⟨_, hsubnet.of_lt (by exact_mod_cast hlt), fits_iff.2 ⟨by omega, hsum⟩⟩

/-- **A device of a building that is found.** -/
theorem isSome_found_iff (hmem : build ∈ area.buildList) (hb : build.Contains c.buildIndex.toNat)
    (ha : c.areaIndex.toNat ≤ build.buildEnd.toNat) (hd : cellDeviceOf type c = some d)
    (hconf : (placedDevice c d).ConfiguredCell build.model.cellList) (ipid : UChar) :
    (Checked.numberBuilds type c (searchIpid c ipid area.buildList) area.buildList
        0).value?.isSome ↔
      build.deviceCount < 2 ^ 31 ∧ (placedDevice c d).place area build.IPID < (2 ^ 31 : ℤ) := by
  obtain ⟨l₁, l₂, hl, hl₁, hl₂⟩ := h.split_build hmem hb
  obtain ⟨cell, hcell, hc, hcellDevice⟩ := hconf
  have hordered := buildOrdered h hrooms hmem
  have hbefore := counts_before h hrooms hl build.IPID
  have hcount := counts_build hordered
  have hdevices : calculationBuildMachineNumber build = (build.deviceCount : ℤ) :=
    calculationBuildMachineNumber_eq (hrooms build hmem) (h.cells build hmem).lo_le_hi
  have hnumber : Checked.numberBuilds type c (searchIpid c ipid area.buildList) area.buildList 0 =
      Checked.numberCells type c build.model.cellList
        ((l₁.filter (·.IPID = build.IPID)).foldl (fun machineNumber build ↦
            machineNumber + Checked.buildRangeMachineNumber build) 0 +
          (Checked.index c.buildIndex - Checked.byte build.buildBegin) *
            Checked.calculationBuildMachineNumber build) := by
    rw [hl, searchIpid_of_contains hl₁ hb ha, Checked.numberBuilds_append _ hl₁,
      Checked.numberBuilds, if_pos rfl, if_neg (Nat.not_lt.2 hb.2), if_pos ⟨hb.1, ha⟩,
      Checked.numberBuilds_of_lt hl₂]
  rw [hnumber]
  by_cases hlt : build.deviceCount < 2 ^ 31
  · have hle : build.buildBegin.toNat ≤ (placedDevice c d).build := hb.1
    have hown : Counts ((Checked.index c.buildIndex - Checked.byte build.buildBegin) *
        Checked.calculationBuildMachineNumber build)
        ((((placedDevice c d).build : ℤ) - build.buildBegin.toNat) *
          calculationBuildMachineNumber build) :=
      Counts.mul (value?_index_diff hb) (by omega) hcount
        (Or.inr (by rw [hdevices]; exact_mod_cast hlt))
    have hplace := counts_numberCells (hbefore.add hown) hordered (h.cells build hmem) hcell hc hd
      hcellDevice
    rw [add_assoc, ← place_of_split (d := placedDevice c d) hl hl₁ hb] at hplace
    exact hplace.isSome_iff.trans ⟨fun hfits ↦ ⟨hlt, hfits⟩, And.right⟩
  · -- all cells of the building are counted, even if it is the first one of its entry
    have hover : (Checked.calculationBuildMachineNumber build).value? = none :=
      hcount.of_le (by rw [hdevices]; exact_mod_cast not_lt.1 hlt)
    rw [numberCells_of_none (value?_add_of_none (Or.inr (value?_mul_of_none (Or.inr hover))))]
    exact iff_of_false Bool.false_ne_true fun hfits ↦ hlt hfits.1

/-- **A device of a building that the loops pass over**: the building is the last one. -/
theorem isSome_passedOver_iff (hmem : build ∈ area.buildList)
    (hb : build.Contains c.buildIndex.toNat) (ha : ¬ c.areaIndex.toNat ≤ build.buildEnd.toNat)
    (hsearch : searchBuild c none area.buildList = some build) (ipid : UChar) :
    (Checked.numberBuilds type c (searchIpid c ipid area.buildList) area.buildList
        0).value?.isSome ↔
      ((area.buildList.filter fun b ↦
        b.IPID = ipid ∧ b.buildEnd.toNat < c.buildIndex.toNat).map Build.rangeCount).sum <
          2 ^ 31 := by
  obtain ⟨l₁, l₂, hl, hl₁, hl₂⟩ := h.split_build hmem hb
  -- the search would have gone on to the next entry
  have hlast : l₂ = [] := by
    rw [hl, searchBuild_of_contains hl₁ hb hl₂, if_neg ha] at hsearch
    cases l₂ with
    | nil => rfl
    | cons next l₂ =>
      have hnext : next = build := Option.some.inj hsearch
      exact absurd (hnext ▸ hb.1) (Nat.not_le.2 (hl₂ next List.mem_cons_self).1)
  subst hlast
  have hbefore := counts_before h hrooms hl ipid
  have hin : ¬ (c.buildIndex.toNat ≥ build.buildBegin.toNat ∧
      c.areaIndex.toNat ≤ build.buildEnd.toNat) := fun hin ↦ ha hin.2
  have hnumber : Checked.numberBuilds type c (searchIpid c ipid area.buildList) area.buildList 0 =
      (l₁.filter (·.IPID = ipid)).foldl (fun machineNumber build ↦
        machineNumber + Checked.buildRangeMachineNumber build) 0 := by
    rw [hl, searchIpid_append _ hl₁, searchIpid, if_neg (Nat.not_lt.2 hb.2), if_neg hin,
      searchIpid, Checked.numberBuilds_append _ hl₁, Checked.numberBuilds,
      if_neg (Nat.not_lt.2 hb.2), if_neg hin, ite_self, Checked.numberBuilds]
  have hfilter : area.buildList.filter (fun b ↦
      b.IPID = ipid ∧ b.buildEnd.toNat < c.buildIndex.toNat) = l₁.filter (·.IPID = ipid) := by
    have hown : ¬ (build.IPID = ipid ∧ build.buildEnd.toNat < c.buildIndex.toNat) :=
      fun hown ↦ absurd hown.2 (Nat.not_lt.2 hb.2)
    rw [hl, List.filter_append, List.filter_cons_of_neg (by simpa using hown), List.filter_nil,
      List.append_nil]
    exact List.filter_congr fun b hb ↦ by simp [hl₁ b hb]
  rw [hnumber, hfilter, hbefore.isSome_iff, sum_buildRanges h hrooms fun build hbuild ↦ by
    rw [hl]
    exact List.mem_append_left _ (List.mem_of_mem_filter hbuild)]
  exact_mod_cast Iff.rfl

end Ordered

end Accepted

/-- **Counting does not overflow** for an accepted code if and only if what is counted for its
device is less than `2 ^ 31`. -/
theorem countsInInt_iff {area : Area} {machineCode : ULongLong} (h : area.RangesOrdered)
    (hrooms : ∀ build ∈ area.buildList, ∀ cell ∈ build.model.cellList, cell.Ordered)
    (haccepted : checkParameters (praseMachineCode machineCode) area = .ok true)
    (machineInfo : MachineInfo) :
    CountsInInt machineCode area machineInfo ↔ PlaceFits area machineCode machineInfo.ipid := by
  obtain ⟨type, htype, ⟨g, hg⟩ | ⟨d, hd⟩⟩ := exists_type_of_accepted haccepted
  · have hdevice : deviceOf (praseMachineCode machineCode) =
        some (.area g (praseMachineCode machineCode).subMachineIndex.toNat) := by
      rw [deviceOf, htype, Option.bind_some, deviceOfType, hg]
    rw [CountsInInt, Checked.numberDevice, PlaceFits, hdevice, htype]
    simp only [hg]
    exact isSome_area_iff h hrooms _ g
  · obtain ⟨hnone, -⟩ := guardIndex_eq_none_of_cellDeviceOf hd
    rw [checkParameters_building htype hd] at haccepted
    obtain ⟨build, hmem, hsearch, hb, hconf⟩ := exists_of_checkBuildingDevice hd haccepted
    rw [CountsInInt, Checked.numberDevice, PlaceFits, deviceOf_building htype hd, htype]
    simp only [hnone]
    -- the building number is in one entry only
    have hunique : ∀ build' ∈ area.buildList,
        build'.Contains (placedDevice (praseMachineCode machineCode) d).build → build' = build :=
      fun build' hmem' hb' ↦ h.builds.unique hmem' hmem hb' hb
    have hplace (P : Build → Prop) : (∀ build' ∈ area.buildList,
        build'.Contains (placedDevice (praseMachineCode machineCode) d).build → P build') ↔
          P build :=
      ⟨fun hP ↦ hP build hmem hb, fun hP build' hmem' hb' ↦ hunique build' hmem' hb' ▸ hP⟩
    rw [BuildingDevice.PlaceFits, hplace]
    by_cases ha : (praseMachineCode machineCode).areaIndex.toNat ≤ build.buildEnd.toNat
    · rw [if_pos ha]
      exact isSome_found_iff h hrooms hmem hb ha hd hconf _
    · rw [if_neg ha]
      exact isSome_passedOver_iff h hrooms hmem hb ha hsearch _

/-- In the sample estate, the indoor station of building 2, cell 1, floor 2, room 1 is counted
without an overflow. -/
theorem countsInInt_sample :
    CountsInInt 0x0010020010201011#64 sampleArea ⟨0, 0, 0, 0, ⟨0, 0, 0⟩⟩ := by
  refine (countsInInt_iff sampleArea_ordered.toRangesOrdered sampleArea_ordered.rooms rfl _).2 ?_
  show BuildingDevice.PlaceFits ⟨2, 1, .indoor 2 1 1⟩ sampleArea 1 0
  rw [BuildingDevice.PlaceFits]
  decide

/-- One building with 256 cells of 256 floors, 256 rooms and all the devices that a byte counts. -/
def crowdedArea : Area where
  guard := sampleArea.guard
  netItem := sampleArea.netItem
  buildList := [⟨1#8, 1#8, 1#8, 1#8, ⟨1#8,
    [⟨0#8, 255#8, 0#8, 255#8, 0#8, 255#8, 255#8, 255#8, 255#8⟩]⟩⟩]

/-- The devices of its cells are no `int`. -/
theorem not_countsInInt_crowdedArea : crowdedArea.RangesOrdered ∧
    (∀ build ∈ crowdedArea.buildList, ∀ cell ∈ build.model.cellList, cell.Ordered) ∧
      checkParameters (praseMachineCode 0x0010010000000012#64) crowdedArea = .ok true ∧
        ∀ machineInfo, ¬ CountsInInt 0x0010010000000012#64 crowdedArea machineInfo :=
  ⟨⟨by decide, by decide⟩, by decide, rfl, fun _ hfits ↦ Bool.false_ne_true hfits⟩

end DoorIntercom
