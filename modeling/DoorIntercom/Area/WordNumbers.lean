import DoorIntercom.Area.BuildingNumbers

/-!
# Numbers on the machine

The accumulation uses ring operations only, so a number counted in `int`s is the exact one modulo
`2 ^ 32`. Here the exact places of `Devices` are carried over to the machine's, one function at a
time, up to the two places that `initMachineInfo` returns (`cast_place`, `cast_guardPlace`), and
equality and sign of a machine number are read off the exact one.
-/

namespace DoorIntercom

/-! ### Exact numbers in any ring -/

section Cast

variable {R : Type} [CommRing R]

theorem cast_calculationCellMachineNumber (cell : Cell) :
    ((calculationCellMachineNumber cell : ℤ) : R) = calculationCellMachineNumber cell := by
  simp [calculationCellMachineNumber]

theorem cast_cellRangeMachineNumber (cell : Cell) :
    ((cellRangeMachineNumber cell : ℤ) : R) = cellRangeMachineNumber cell := by
  simp [cellRangeMachineNumber, cast_calculationCellMachineNumber]

theorem cast_calculationBuildMachineNumber (build : Build) :
    ((calculationBuildMachineNumber build : ℤ) : R) = calculationBuildMachineNumber build := by
  rw [calculationBuildMachineNumber_eq_sum, calculationBuildMachineNumber_eq_sum,
    Int.cast_list_sum, List.map_map]
  congr 1
  exact List.map_congr_left fun cell _ ↦ cast_cellRangeMachineNumber cell

theorem cast_buildRangeMachineNumber (build : Build) :
    ((buildRangeMachineNumber build : ℤ) : R) = buildRangeMachineNumber build := by
  simp [buildRangeMachineNumber, cast_calculationBuildMachineNumber]

theorem cast_subnetMachineNumber (area : Area) (ipid : UChar) :
    ((subnetMachineNumber area ipid : ℤ) : R) = subnetMachineNumber area ipid := by
  rw [subnetMachineNumber_eq_sum, subnetMachineNumber_eq_sum, Int.cast_list_sum, List.map_map]
  congr 1
  exact List.map_congr_left fun build _ ↦ cast_buildRangeMachineNumber build

theorem cast_cellDevice_place (cell : Cell) (x : CellDevice) :
    ((x.place cell : ℤ) : R) = x.place cell := by
  cases x <;> simp [CellDevice.place, Cell.roomPlace]

theorem cast_cellsPlace (cells : List Cell) (d : BuildingDevice) :
    ((cellsPlace cells d : ℤ) : R) = cellsPlace cells d := by
  induction cells with
  | nil => simp [cellsPlace]
  | cons cell rest ih =>
    rw [cellsPlace, cellsPlace]
    split_ifs
    · rw [Int.cast_add, ih, cast_cellRangeMachineNumber]
    · simp [cast_calculationCellMachineNumber, cast_cellDevice_place]

theorem cast_buildsPlace (builds : List Build) (d : BuildingDevice) :
    ((buildsPlace builds d : ℤ) : R) = buildsPlace builds d := by
  induction builds with
  | nil => simp [buildsPlace]
  | cons build rest ih =>
    rw [buildsPlace, buildsPlace]
    split_ifs
    · rw [Int.cast_add, ih, cast_buildRangeMachineNumber]
    · simp [cast_calculationBuildMachineNumber, cast_cellsPlace]

/-- **The place of a building device**, in any ring, is the exact one. -/
theorem cast_place (area : Area) (ipid : UChar) (d : BuildingDevice) :
    ((d.place area ipid : ℤ) : R) = d.place area ipid :=
  cast_buildsPlace _ d

/-- **The place of a device of the area**, in any ring, is the exact one. -/
theorem cast_guardPlace (area : Area) (g : Fin 3) (sub : ℕ) :
    ((guardPlace area g sub : ℤ) : R) = guardPlace area g sub := by
  have hoffset : ((guardOffset area g : ℤ) : R) = guardOffset area g := by
    match g with
    | 0 => simp [guardOffset]
    | 1 => simp [guardOffset, guardCount]
    | 2 => simp [guardOffset, guardCount]
  simp [guardPlace, cast_subnetMachineNumber, hoffset]

end Cast

/-! ### Equality and sign -/

/-- Two exact numbers are the same `int` when they are congruent modulo `2 ^ 32`. -/
theorem word_cast_eq_iff (a b : ℤ) : (a : Word) = (b : Word) ↔ a % 2 ^ 32 = b % 2 ^ 32 := by
  rw [← BitVec.toNat_inj, BitVec.toNat_intCast, BitVec.toNat_intCast]
  omega

theorem word_cast_eq_zero_iff (a : ℤ) : (a : Word) = 0 ↔ a % 2 ^ 32 = 0 := by
  rw [← Int.cast_zero, word_cast_eq_iff]
  omega

/-- The signed value of an exact number as an `int`. -/
theorem toInt_word_cast (a : ℤ) : CInt.toInt (a : Word) = a.bmod (2 ^ 32) := by
  rw [CInt.toInt_word, BitVec.toInt_intCast]

end DoorIntercom
