import DoorIntercom.Area.MachineCode
import DoorIntercom.Lib.OrderedRanges
import Mathlib.Data.BitVec
import Mathlib.Data.Fin.VecNotation

/-!
# The configuration of an estate

The structures of `area.h`. An `Area` lists the estate's buildings as ranges of building numbers;
a range of buildings shares a `Model`, which lists the building's cells (staircases) as ranges of
cell numbers with their floors, rooms and device counts. `Guard` records number the devices of the
estate itself, and a `NetItem` plans the addresses of one subnet (`IPID`).

The intrusive lists are modelled by Lean lists of the structures their nodes sit in.

The devices are counted in C `int`s. The counting functions are written once, over a commutative
ring `R` that stands for the type `int`: `ℤ` counts in exact integers, `Word` as the machine does,
modulo `2 ^ 32`. `CInt.toInt` is the signed reading of such a number where the code compares or
divides it.
-/

namespace DoorIntercom

/-! ### The C type `int` -/

/-- A ring to count in, with the signed value of its elements. -/
class CInt (R : Type) [CommRing R] where
  /-- The signed value of a number. -/
  toInt : R → ℤ

/-- Exact integers. -/
instance : CInt ℤ where
  toInt n := n

/-- 32-bit `int`s in two's complement. -/
instance : CInt Word where
  toInt n := n.toInt

theorem CInt.toInt_word (n : Word) : CInt.toInt n = n.toInt := rfl

/-! ### The structures of `area.h` -/

/-- `guard` has indexes. -/
instance neZero_three : NeZero 3 := ⟨by decide⟩

/-- An address has indexes. -/
instance neZero_four : NeZero 4 := ⟨by decide⟩

/-- Four octets, the most significant first. -/
abbrev IpAddress := Fin 4 → UChar

structure MachineIPInfo where
  ipAddress : IpAddress
  gateWay : IpAddress
  netMask : IpAddress
  deriving DecidableEq

structure MachineInfo where
  number : UChar
  index : UChar
  ipid : UChar
  machineCode : ULongLong
  machineIPInfo : MachineIPInfo
  deriving DecidableEq

structure Guard where
  IPID : UChar
  indexBegin : UChar
  indexEnd : UChar
  deriving DecidableEq, Repr

structure NetItem where
  netStart : IpAddress
  netEnd : IpAddress
  netGW : IpAddress
  IPID : Word
  deriving DecidableEq

structure Cell where
  cellBegin : UChar
  cellEnd : UChar
  floorBegin : UChar
  floorEnd : UChar
  roomBegin : UChar
  roomEnd : UChar
  outDoorCount : UChar
  inDoorCount : UChar
  secondOutDoorCount : UChar
  deriving DecidableEq, Repr

structure Model where
  id : UChar
  cellList : List Cell
  deriving DecidableEq, Repr

structure Build where
  IPID : UChar
  buildBegin : UChar
  buildEnd : UChar
  MODID : UChar
  model : Model
  deriving DecidableEq, Repr

/-- `guard[0]` is the management centre, `guard[1]` the area doors, `guard[2]` the guards. -/
structure Area where
  guard : Fin 3 → Guard
  netItem : Fin 2 → NetItem
  buildList : List Build
  deriving DecidableEq

/-! ### Well-formed configurations -/

namespace Cell

/-- The ranges of a cell entry. -/
def Contains (cell : Cell) (n : ℕ) : Prop :=
  cell.cellBegin.toNat ≤ n ∧ n ≤ cell.cellEnd.toNat

instance (cell : Cell) (n : ℕ) : Decidable (cell.Contains n) :=
  inferInstanceAs (Decidable (_ ∧ _))

/-- The floor and the room exist in the cell. -/
def HasRoom (cell : Cell) (floor door : ℕ) : Prop :=
  (cell.floorBegin.toNat ≤ floor ∧ floor ≤ cell.floorEnd.toNat) ∧
    cell.roomBegin.toNat ≤ door ∧ door ≤ cell.roomEnd.toNat

instance (cell : Cell) (floor door : ℕ) : Decidable (cell.HasRoom floor door) :=
  inferInstanceAs (Decidable (_ ∧ _))

/-- The floor and room ranges of the cell are not empty. -/
def Ordered (cell : Cell) : Prop :=
  cell.floorBegin.toNat ≤ cell.floorEnd.toNat ∧ cell.roomBegin.toNat ≤ cell.roomEnd.toNat

instance (cell : Cell) : Decidable cell.Ordered :=
  inferInstanceAs (Decidable (_ ∧ _))

end Cell

namespace Build

/-- `n` is one of the building numbers of the entry. -/
def Contains (build : Build) (n : ℕ) : Prop :=
  build.buildBegin.toNat ≤ n ∧ n ≤ build.buildEnd.toNat

instance (build : Build) (n : ℕ) : Decidable (build.Contains n) :=
  inferInstanceAs (Decidable (_ ∧ _))

end Build

/-- The buildings, and the cells of every model, have disjoint ranges in increasing order. -/
structure Area.RangesOrdered (area : Area) : Prop where
  builds : Increasing (fun b : Build ↦ b.buildBegin.toNat) (fun b ↦ b.buildEnd.toNat) area.buildList
  cells : ∀ b ∈ area.buildList,
    Increasing (fun c : Cell ↦ c.cellBegin.toNat) (fun c ↦ c.cellEnd.toNat) b.model.cellList

/-- Building numbers start at 1, and every range of the configuration is in order. -/
structure Area.Ordered (area : Area) : Prop extends area.RangesOrdered where
  one_le : ∀ b ∈ area.buildList, 1 ≤ b.buildBegin.toNat
  rooms : ∀ b ∈ area.buildList, ∀ c ∈ b.model.cellList, c.Ordered

theorem Area.Ordered.one_le_buildEnd {area : Area} (h : area.Ordered) :
    ∀ b ∈ area.buildList, 1 ≤ b.buildEnd.toNat :=
  fun b hb ↦ (h.one_le b hb).trans (h.builds.lo_le_hi b hb)

/-- A small estate for evaluating the results below: two models, the first one shared by buildings
1 and 2, all in the subnet 192.168.1.0 with `IPID` 1. -/
def sampleArea : Area where
  guard := ![⟨1#8, 1#8, 2#8⟩, ⟨1#8, 1#8, 1#8⟩, ⟨1#8, 1#8, 3#8⟩]
  netItem := ![⟨![192#8, 168#8, 1#8, 0#8], ![192#8, 168#8, 8#8, 255#8], ![192#8, 168#8, 1#8, 0#8],
    1#32⟩, ⟨0, 0, 0, 0#32⟩]
  buildList :=
    [⟨1#8, 1#8, 2#8, 1#8, ⟨1#8, [⟨1#8, 2#8, 1#8, 2#8, 1#8, 2#8, 1#8, 1#8, 1#8⟩,
        ⟨3#8, 3#8, 1#8, 3#8, 1#8, 1#8, 2#8, 2#8, 0#8⟩]⟩⟩,
      ⟨1#8, 3#8, 3#8, 2#8, ⟨2#8, [⟨1#8, 1#8, 1#8, 2#8, 1#8, 1#8, 1#8, 1#8, 1#8⟩]⟩⟩]

theorem sampleArea_ordered : sampleArea.Ordered where
  builds := by decide
  cells := by decide
  one_le := by decide
  rooms := by decide

end DoorIntercom
