import Mathlib.Data.Nat.Bitwise
import Mathlib.Tactic.Ring

/-!
# Machine codes

A machine code addresses one device of the estate: seven fields packed into an
`unsigned long long`, from the low end the device type (4 bits), the sub-machine, room and floor
indexes (8 bits each), the cell and building indexes (12 bits each) and the area index (8 bits).

The two macros of `area.h` are modelled at the C widths of their operands. `PRASE_MACHINE_CODE`
shifts the 64-bit code. `GENERATE_MACHINE_CODE` shifts each field at the width the integer
promotions give it: the byte fields as 32-bit `int`, the building and area indexes after a cast to
`unsigned long long`, and the cell index **as a 32-bit `unsigned int`**, which is the one shift that
can lose bits.
-/

namespace DoorIntercom

/-- `unsigned char`. -/
abbrev UChar := BitVec 8

/-- `int` and `unsigned int`: one 32-bit word, the signedness being a matter of how it is read. -/
abbrev Word := BitVec 32

/-- `unsigned long long`. -/
abbrev ULongLong := BitVec 64

/-- `enum DEVCIE_TYPE`. -/
inductive DeviceType
  | room
  | cellDoor
  | houseDoor
  | monitor
  | guard
  | areaDoor
  | manager
  deriving DecidableEq, Repr

namespace DeviceType

/-- The enumerators' values; 4 is not used. -/
def value : DeviceType → UChar
  | room => 1
  | cellDoor => 2
  | houseDoor => 3
  | monitor => 5
  | guard => 6
  | areaDoor => 7
  | manager => 8

/-- The enumerator a `switch` on a byte selects, `none` being its `default`. -/
def ofValue (v : UChar) : Option DeviceType :=
  match v.toNat with
  | 1 => some room
  | 2 => some cellDoor
  | 3 => some houseDoor
  | 5 => some monitor
  | 6 => some guard
  | 7 => some areaDoor
  | 8 => some manager
  | _ => none

@[simp] theorem ofValue_value (t : DeviceType) : ofValue t.value = some t := by
  cases t <;> rfl

theorem value_lt (t : DeviceType) : t.value.toNat < 2 ^ 4 := by
  cases t <;> decide

end DeviceType

/-- The local variables a machine code is parsed into. -/
structure CodeFields where
  machineIndex : UChar
  subMachineIndex : UChar
  doorIndex : UChar
  floorIndex : UChar
  cellIndex : Word
  buildIndex : Word
  areaIndex : Word
  deriving DecidableEq, Repr

/-- `GENERATE_MACHINE_CODE`, for operands of the types that `getObjectMachineInfo` passes. The five
low fields meet in a 32-bit word before the 64-bit operands widen it. -/
def generateMachineCode (c : CodeFields) : ULongLong :=
  let low : Word :=
    (c.machineIndex.setWidth 32 &&& 0x0f#32) |||
      (c.subMachineIndex.setWidth 32 <<< 4) |||
      (c.doorIndex.setWidth 32 <<< 12) |||
      (c.floorIndex.setWidth 32 <<< 20) |||
      (c.cellIndex <<< 28)
  low.setWidth 64 ||| (c.buildIndex.setWidth 64 <<< 40) ||| (c.areaIndex.setWidth 64 <<< 52)

/-- `PRASE_MACHINE_CODE`. -/
def praseMachineCode (machineCode : ULongLong) : CodeFields where
  machineIndex := (machineCode &&& 0x0f#64).setWidth 8
  subMachineIndex := ((machineCode >>> 4) &&& 0xff#64).setWidth 8
  doorIndex := ((machineCode >>> 12) &&& 0xff#64).setWidth 8
  floorIndex := ((machineCode >>> 20) &&& 0xff#64).setWidth 8
  cellIndex := ((machineCode >>> 28) &&& 0xfff#64).setWidth 32
  buildIndex := ((machineCode >>> 40) &&& 0xfff#64).setWidth 32
  areaIndex := ((machineCode >>> 52) &&& 0xff#64).setWidth 32

/-- Fields are compared by their values. -/
theorem CodeFields.ext_toNat {x y : CodeFields} (hm : x.machineIndex.toNat = y.machineIndex.toNat)
    (hs : x.subMachineIndex.toNat = y.subMachineIndex.toNat)
    (hd : x.doorIndex.toNat = y.doorIndex.toNat) (hf : x.floorIndex.toNat = y.floorIndex.toNat)
    (hc : x.cellIndex.toNat = y.cellIndex.toNat) (hb : x.buildIndex.toNat = y.buildIndex.toNat)
    (ha : x.areaIndex.toNat = y.areaIndex.toNat) : x = y := by
  cases x
  cases y
  simp only [BitVec.toNat_inj] at hm hs hd hf hc hb ha
  rw [hm, hs, hd, hf, hc, hb, ha]

/-- Every field is within its width in the documented layout. -/
structure CodeFields.Fits (c : CodeFields) : Prop where
  machineIndex : c.machineIndex.toNat < 2 ^ 4
  cellIndex : c.cellIndex.toNat < 2 ^ 12
  buildIndex : c.buildIndex.toNat < 2 ^ 12
  areaIndex : c.areaIndex.toNat < 2 ^ 8

/-- The number that the documented layout packs the fields into. -/
def CodeFields.layout (c : CodeFields) : ℕ :=
  c.machineIndex.toNat + c.subMachineIndex.toNat * 2 ^ 4 + c.doorIndex.toNat * 2 ^ 12 +
    c.floorIndex.toNat * 2 ^ 20 + c.cellIndex.toNat * 2 ^ 28 + c.buildIndex.toNat * 2 ^ 40 +
    c.areaIndex.toNat * 2 ^ 52

/-! ### The value of a code

Both macros in arithmetic: generating is a sum of shifted fields, parsing takes quotients and
remainders. -/

/-- A field shifted past the bits of `a` adds its multiple. -/
private theorem or_shiftLeft {a b i : ℕ} (ha : a < 2 ^ i) : a ||| b <<< i = a + b * 2 ^ i := by
  rw [Nat.or_comm, ← Nat.shiftLeft_add_eq_or_of_lt ha, Nat.shiftLeft_eq, Nat.add_comm]

/-- A promoted field that the shift leaves room for is shifted as a number. -/
private theorem setWidth_shiftLeft_toNat {v w i : ℕ} (x : BitVec v) (hv : v ≤ w)
    (h : x.toNat * 2 ^ i < 2 ^ w) : (x.setWidth w <<< i).toNat = x.toNat <<< i := by
  rw [BitVec.toNat_shiftLeft, BitVec.toNat_setWidth_of_le hv, Nat.shiftLeft_eq,
    Nat.mod_eq_of_lt h]

/-- The code of fields within their widths. Only the cell index is not kept whole: its shift drops
all but the low four bits. -/
theorem generateMachineCode_toNat {c : CodeFields} (hc : c.Fits) :
    (generateMachineCode c).toNat =
      c.machineIndex.toNat + c.subMachineIndex.toNat * 2 ^ 4 + c.doorIndex.toNat * 2 ^ 12 +
        c.floorIndex.toNat * 2 ^ 20 + c.cellIndex.toNat % 2 ^ 4 * 2 ^ 28 +
        c.buildIndex.toNat * 2 ^ 40 + c.areaIndex.toNat * 2 ^ 52 := by
  have hm := hc.machineIndex
  have hb := hc.buildIndex
  have ha := hc.areaIndex
  have hs := c.subMachineIndex.isLt
  have hd := c.doorIndex.isLt
  have hf := c.floorIndex.isLt
  have hmask : (c.machineIndex.setWidth 32 &&& 0x0f#32).toNat = c.machineIndex.toNat := by
    rw [BitVec.toNat_and, BitVec.toNat_setWidth_of_le (by omega), BitVec.toNat_ofNat,
      show 0x0f % 2 ^ 32 = 2 ^ 4 - 1 from rfl, Nat.and_two_pow_sub_one_eq_mod, Nat.mod_eq_of_lt hm]
  have hcell : (c.cellIndex <<< 28).toNat = (c.cellIndex.toNat % 2 ^ 4) <<< 28 := by
    rw [BitVec.toNat_shiftLeft, Nat.shiftLeft_eq, Nat.shiftLeft_eq]
    omega
  rw [generateMachineCode, BitVec.toNat_or, BitVec.toNat_or, BitVec.toNat_setWidth_of_le (by omega),
    BitVec.toNat_or, BitVec.toNat_or, BitVec.toNat_or, BitVec.toNat_or, hmask, hcell,
    setWidth_shiftLeft_toNat c.subMachineIndex (by omega) (by omega),
    setWidth_shiftLeft_toNat c.doorIndex (by omega) (by omega),
    setWidth_shiftLeft_toNat c.floorIndex (by omega) (by omega),
    setWidth_shiftLeft_toNat c.buildIndex (by omega) (by omega),
    setWidth_shiftLeft_toNat c.areaIndex (by omega) (by omega)]
  -- the fields are merged from the low end, each into bits its predecessors leave free
  rw [or_shiftLeft (i := 4) (by omega), or_shiftLeft (i := 12) (by omega),
    or_shiftLeft (i := 20) (by omega), or_shiftLeft (i := 28) (by omega),
    or_shiftLeft (i := 40) (by omega), or_shiftLeft (i := 52) (by omega)]

/-- One field of a parsed code: a shift and a mask are a quotient and a remainder. -/
private theorem field_toNat (machineCode : ULongLong) (i : ℕ) {w v : ℕ} {mask : ULongLong}
    (hmask : mask.toNat = 2 ^ w - 1) (hv : w ≤ v) :
    (((machineCode >>> i) &&& mask).setWidth v).toNat = machineCode.toNat / 2 ^ i % 2 ^ w := by
  have hlt : machineCode.toNat / 2 ^ i % 2 ^ w < 2 ^ v :=
    lt_of_lt_of_le (Nat.mod_lt _ (Nat.two_pow_pos w)) (Nat.pow_le_pow_right (by omega) hv)
  rw [BitVec.toNat_setWidth, BitVec.toNat_and, BitVec.toNat_ushiftRight,
    Nat.shiftRight_eq_div_pow, hmask, Nat.and_two_pow_sub_one_eq_mod, Nat.mod_eq_of_lt hlt]

section Prase

variable (machineCode : ULongLong)

@[simp] theorem praseMachineCode_machineIndex :
    (praseMachineCode machineCode).machineIndex.toNat = machineCode.toNat % 2 ^ 4 := by
  have h : ((machineCode >>> 0 &&& 0x0f#64).setWidth 8).toNat = machineCode.toNat / 2 ^ 0 % 2 ^ 4 :=
    field_toNat machineCode 0 rfl (by omega)
  rw [BitVec.ushiftRight_zero, Nat.pow_zero, Nat.div_one] at h
  exact h

@[simp] theorem praseMachineCode_subMachineIndex :
    (praseMachineCode machineCode).subMachineIndex.toNat = machineCode.toNat / 2 ^ 4 % 2 ^ 8 := by
  show ((machineCode >>> 4 &&& 0xff#64).setWidth 8).toNat = _
  exact field_toNat machineCode 4 rfl (by omega)

@[simp] theorem praseMachineCode_doorIndex :
    (praseMachineCode machineCode).doorIndex.toNat = machineCode.toNat / 2 ^ 12 % 2 ^ 8 := by
  show ((machineCode >>> 12 &&& 0xff#64).setWidth 8).toNat = _
  exact field_toNat machineCode 12 rfl (by omega)

@[simp] theorem praseMachineCode_floorIndex :
    (praseMachineCode machineCode).floorIndex.toNat = machineCode.toNat / 2 ^ 20 % 2 ^ 8 := by
  show ((machineCode >>> 20 &&& 0xff#64).setWidth 8).toNat = _
  exact field_toNat machineCode 20 rfl (by omega)

@[simp] theorem praseMachineCode_cellIndex :
    (praseMachineCode machineCode).cellIndex.toNat = machineCode.toNat / 2 ^ 28 % 2 ^ 12 := by
  show ((machineCode >>> 28 &&& 0xfff#64).setWidth 32).toNat = _
  exact field_toNat machineCode 28 rfl (by omega)

@[simp] theorem praseMachineCode_buildIndex :
    (praseMachineCode machineCode).buildIndex.toNat = machineCode.toNat / 2 ^ 40 % 2 ^ 12 := by
  show ((machineCode >>> 40 &&& 0xfff#64).setWidth 32).toNat = _
  exact field_toNat machineCode 40 rfl (by omega)

@[simp] theorem praseMachineCode_areaIndex :
    (praseMachineCode machineCode).areaIndex.toNat = machineCode.toNat / 2 ^ 52 % 2 ^ 8 := by
  show ((machineCode >>> 52 &&& 0xff#64).setWidth 32).toNat = _
  exact field_toNat machineCode 52 rfl (by omega)

/-- Parsed fields are within their widths. -/
theorem praseMachineCode_fits : (praseMachineCode machineCode).Fits where
  machineIndex := by
    rw [praseMachineCode_machineIndex]
    exact Nat.mod_lt _ (by omega)
  cellIndex := by
    rw [praseMachineCode_cellIndex]
    exact Nat.mod_lt _ (by omega)
  buildIndex := by
    rw [praseMachineCode_buildIndex]
    exact Nat.mod_lt _ (by omega)
  areaIndex := by
    rw [praseMachineCode_areaIndex]
    exact Nat.mod_lt _ (by omega)

end Prase

/-! ### Round trips -/

/-- The documented layout: a code with these digits has these fields. -/
theorem praseMachineCode_eq_of_toNat {c : CodeFields} (hc : c.Fits) {machineCode : ULongLong}
    (h : machineCode.toNat = c.layout) : praseMachineCode machineCode = c := by
  rw [CodeFields.layout] at h
  have hm := hc.machineIndex
  have hl := hc.cellIndex
  have hb := hc.buildIndex
  have ha := hc.areaIndex
  have hs := c.subMachineIndex.isLt
  have hd := c.doorIndex.isLt
  have hf := c.floorIndex.isLt
  apply CodeFields.ext_toNat
  · rw [praseMachineCode_machineIndex]
    omega
  · rw [praseMachineCode_subMachineIndex]
    omega
  · rw [praseMachineCode_doorIndex]
    omega
  · rw [praseMachineCode_floorIndex]
    omega
  · rw [praseMachineCode_cellIndex]
    omega
  · rw [praseMachineCode_buildIndex]
    omega
  · rw [praseMachineCode_areaIndex]
    omega

/-- All fields within their widths are those of some code. -/
theorem exists_praseMachineCode_eq {c : CodeFields} (hc : c.Fits) :
    ∃ machineCode, praseMachineCode machineCode = c := by
  have hm := hc.machineIndex
  have hl := hc.cellIndex
  have hb := hc.buildIndex
  have ha := hc.areaIndex
  have hs := c.subMachineIndex.isLt
  have hd := c.doorIndex.isLt
  have hf := c.floorIndex.isLt
  refine ⟨BitVec.ofNat 64 c.layout, praseMachineCode_eq_of_toNat hc ?_⟩
  rw [BitVec.toNat_ofNat, CodeFields.layout]
  exact Nat.mod_eq_of_lt (by omega)

/-- **Generating and parsing** keeps every field but the cell index, of which four bits are left. -/
theorem praseMachineCode_generateMachineCode {c : CodeFields} (hc : c.Fits) :
    praseMachineCode (generateMachineCode c) =
      { c with cellIndex := BitVec.ofNat 32 (c.cellIndex.toNat % 2 ^ 4) } := by
  have hcell : (BitVec.ofNat 32 (c.cellIndex.toNat % 2 ^ 4)).toNat = c.cellIndex.toNat % 2 ^ 4 := by
    rw [BitVec.toNat_ofNat]
    omega
  have hlt : (BitVec.ofNat 32 (c.cellIndex.toNat % 2 ^ 4)).toNat < 2 ^ 12 := by omega
  apply praseMachineCode_eq_of_toNat
  · exact ⟨hc.machineIndex, hlt, hc.buildIndex, hc.areaIndex⟩
  · rw [generateMachineCode_toNat hc, CodeFields.layout, hcell]

/-- **Parsing and generating** gives a 60-bit code back up to the high byte of its cell index. -/
theorem generateMachineCode_praseMachineCode_toNat {machineCode : ULongLong}
    (h : machineCode.toNat < 2 ^ 60) :
    (generateMachineCode (praseMachineCode machineCode)).toNat +
        (praseMachineCode machineCode).cellIndex.toNat / 2 ^ 4 * 2 ^ 32 = machineCode.toNat := by
  rw [generateMachineCode_toNat (praseMachineCode_fits machineCode)]
  simp only [praseMachineCode_machineIndex, praseMachineCode_subMachineIndex,
    praseMachineCode_doorIndex, praseMachineCode_floorIndex, praseMachineCode_cellIndex,
    praseMachineCode_buildIndex, praseMachineCode_areaIndex]
  omega

/-- **The round trip holds exactly below cell 16**, in both directions. -/
theorem machineCode_roundTrip_iff {c : CodeFields} (hc : c.Fits) {machineCode : ULongLong}
    (h : machineCode.toNat < 2 ^ 60) :
    (praseMachineCode (generateMachineCode c) = c ↔ c.cellIndex.toNat < 16) ∧
      (generateMachineCode (praseMachineCode machineCode) = machineCode ↔
        (praseMachineCode machineCode).cellIndex.toNat < 16) := by
  constructor
  · have hlt := hc.cellIndex
    rw [praseMachineCode_generateMachineCode hc]
    constructor
    · intro h
      have hcell := congrArg (fun x : CodeFields ↦ x.cellIndex.toNat) h
      simp only [BitVec.toNat_ofNat] at hcell
      omega
    · intro h
      have hcell : BitVec.ofNat 32 (c.cellIndex.toNat % 2 ^ 4) = c.cellIndex := by
        apply BitVec.eq_of_toNat_eq
        rw [BitVec.toNat_ofNat]
        omega
      rw [hcell]
  · have hval := generateMachineCode_praseMachineCode_toNat h
    rw [← BitVec.toNat_inj]
    omega

/-- Both directions at cell 15 of building 5. -/
theorem machineCode_roundTrip_cell15 :
    praseMachineCode (generateMachineCode ⟨1, 2, 3, 4, 15, 5, 1⟩) = ⟨1, 2, 3, 4, 15, 5, 1⟩ ∧
      generateMachineCode (praseMachineCode 0x00100500F0403021) = 0x00100500F0403021 := by
  have hiff := machineCode_roundTrip_iff (c := ⟨1, 2, 3, 4, 15, 5, 1⟩)
    ⟨by decide, by decide, by decide, by decide⟩
    (by decide : (0x00100500F0403021 : ULongLong).toNat < 2 ^ 60)
  exact ⟨hiff.1.2 (by decide), hiff.2.2 (by decide)⟩

/-- Cell 16 is within its 12 bits and comes back as cell 0; its code does not come back either. -/
theorem machineCode_cell16_lost :
    CodeFields.Fits ⟨1, 1, 1, 1, 16, 1, 1⟩ ∧
      praseMachineCode (generateMachineCode ⟨1, 1, 1, 1, 16, 1, 1⟩) = ⟨1, 1, 1, 1, 0, 1, 1⟩ ∧
      generateMachineCode (praseMachineCode 0x0010010100101011) ≠ 0x0010010100101011 :=
  ⟨⟨by decide, by decide, by decide, by decide⟩, by decide, by decide⟩

end DoorIntercom
