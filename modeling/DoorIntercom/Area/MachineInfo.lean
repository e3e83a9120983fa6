import DoorIntercom.Area.IpPlan

/-!
# Numbering a device

`calculationCellMachineNumber`, `calculationBuildMachineNumber` and `initMachineInfo`.

`initMachineInfo` first judges the parameters. For a building device (室内机, 栋门口机, 二次确认机) it searches
the building and the cell, and each search leaves its cursor where it stopped, whether or not that
entry matches; a cursor no iteration has assigned is `none`, and reading it is a `Fault`. It then
fills `*machineInfo` and accumulates the machine number: over the buildings of the device's subnet
for a building device, over all of them plus the area-level devices before it for a device of the
area. Last, `calculationIP` plans the address; its return value is ignored.
-/

namespace DoorIntercom

/-- Reading a cursor that no search loop of the call has assigned. -/
inductive Fault
  | build
  | cell
  deriving DecidableEq, Repr

section Definitions

variable {R : Type} [CommRing R]

/-- `calculationCellMachineNumber`: the devices of one cell. -/
def calculationCellMachineNumber (cell : Cell) : R :=
  ((cell.floorEnd.toNat : R) - cell.floorBegin.toNat + 1) *
      ((cell.roomEnd.toNat : R) - cell.roomBegin.toNat + 1) *
      ((cell.inDoorCount.toNat : R) + cell.secondOutDoorCount.toNat) +
    cell.outDoorCount.toNat

/-- The devices of all the cells of one entry. -/
def cellRangeMachineNumber (cell : Cell) : R :=
  ((cell.cellEnd.toNat : R) - cell.cellBegin.toNat + 1) * calculationCellMachineNumber cell

/-- `calculationBuildMachineNumber`: the devices of one building. -/
def calculationBuildMachineNumber (build : Build) : R :=
  build.model.cellList.foldl
    (fun machineNumber cell ↦ machineNumber + cellRangeMachineNumber cell) 0

/-- The devices of all the buildings of one entry. -/
def buildRangeMachineNumber (build : Build) : R :=
  ((build.buildEnd.toNat : R) - build.buildBegin.toNat + 1) * calculationBuildMachineNumber build

/-! ### Judging the parameters -/

/-- The loop that looks for the building: `build` after it, from the cursor's value before. -/
def searchBuild (c : CodeFields) : Option Build → List Build → Option Build
  | build, [] => build
  | _, build :: rest =>
    if c.buildIndex.toNat > build.buildEnd.toNat then searchBuild c (some build) rest
    else if c.buildIndex.toNat ≥ build.buildBegin.toNat ∧
        c.areaIndex.toNat ≤ build.buildEnd.toNat then
      some build
    else if c.buildIndex.toNat < build.buildBegin.toNat then some build
    else searchBuild c (some build) rest

/-- The loop that looks for the cell. -/
def searchCell (c : CodeFields) : Option Cell → List Cell → Option Cell
  | cell, [] => cell
  | _, cell :: rest =>
    if c.cellIndex.toNat > cell.cellEnd.toNat then searchCell c (some cell) rest
    else if c.cellIndex.toNat ≥ cell.cellBegin.toNat ∧ c.cellIndex.toNat ≤ cell.cellEnd.toNat then
      some cell
    else if c.cellIndex.toNat < cell.cellBegin.toNat then some cell
    else searchCell c (some cell) rest

/-- The tests on floor, room and sub-machine index, per device type; `true` is no `return 0`. -/
def checkIndexes (type : DeviceType) (c : CodeFields) (cell : Cell) : Bool :=
  match type with
  | .cellDoor =>
    !(c.subMachineIndex.toNat > cell.outDoorCount.toNat || c.subMachineIndex.toNat < 1)
  | .houseDoor =>
    !(c.floorIndex.toNat < cell.floorBegin.toNat || c.floorIndex.toNat > cell.floorEnd.toNat) &&
      !(c.doorIndex.toNat < cell.roomBegin.toNat || c.doorIndex.toNat > cell.roomEnd.toNat) &&
      !(c.subMachineIndex.toNat > cell.secondOutDoorCount.toNat || c.subMachineIndex.toNat < 1)
  | .room =>
    !(c.floorIndex.toNat < cell.floorBegin.toNat || c.floorIndex.toNat > cell.floorEnd.toNat) &&
      !(c.doorIndex.toNat < cell.roomBegin.toNat || c.doorIndex.toNat > cell.roomEnd.toNat) &&
      !(c.subMachineIndex.toNat < 1 || c.subMachineIndex.toNat > cell.inDoorCount.toNat)
  | _ => true

/-- The case of the parameter switch for a building device. -/
def checkBuildingDevice (type : DeviceType) (c : CodeFields) (area : Area) : Except Fault Bool :=
  match searchBuild c none area.buildList with
  | none => .error .build
  | some build =>
    if c.buildIndex.toNat < build.buildBegin.toNat ∨ c.buildIndex.toNat > build.buildEnd.toNat then
      .ok false
    else
      match searchCell c none build.model.cellList with
      | none => .error .cell
      | some cell =>
        if c.cellIndex.toNat < cell.cellBegin.toNat ∨ c.cellIndex.toNat > cell.cellEnd.toNat then
          .ok false
        else .ok (checkIndexes type c cell)

/-- The `Guard` record of an area-level device type. -/
def guardIndex : DeviceType → Option (Fin 3)
  | .manager => some 0
  | .areaDoor => some 1
  | .guard => some 2
  | _ => none

/-- The parameter switch: `false` is `return 0`. -/
def checkParameters (c : CodeFields) (area : Area) : Except Fault Bool :=
  match DeviceType.ofValue c.machineIndex with
  | none => .ok false
  | some .monitor => .ok false
  | some type =>
    match guardIndex type with
    | some g =>
      .ok (!(c.subMachineIndex.toNat < (area.guard g).indexBegin.toNat ||
        c.subMachineIndex.toNat > (area.guard g).indexEnd.toNat))
    | none => checkBuildingDevice type c area

/-! ### A device of the area -/

/-- The number of devices of a `Guard` record. -/
def guardCount (guard : Guard) : R :=
  (guard.indexEnd.toNat : R) - guard.indexBegin.toNat + 1

/-- The devices of the area that are counted before those of a record. -/
def guardOffset (area : Area) : Fin 3 → R
  | 0 => 0
  | 1 => guardCount (area.guard 0)
  | 2 => guardCount (area.guard 0) + guardCount (area.guard 1)

/-- The loop over all the buildings of a subnet. -/
def subnetMachineNumber (area : Area) (ipid : UChar) : R :=
  area.buildList.foldl (fun machineNumber build ↦
    if build.IPID = ipid then machineNumber + buildRangeMachineNumber build else machineNumber) 0

/-- The numbering of an area-level device: `machineNumber` and `*machineInfo`. -/
def numberGuardDevice (c : CodeFields) (area : Area) (g : Fin 3) (machineInfo : MachineInfo) :
    R × MachineInfo :=
  let guard := area.guard g
  let machineInfo := { machineInfo with
    ipid := guard.IPID
    number := guard.indexEnd - guard.indexBegin + 1#8
    index := c.subMachineIndex }
  (subnetMachineNumber area machineInfo.ipid + (guardOffset area g + c.subMachineIndex.toNat),
    machineInfo)

/-! ### A device of a building -/

/-- The loop that looks for the building's `IPID`, from the one `*machineInfo` holds before. -/
def searchIpid (c : CodeFields) : UChar → List Build → UChar
  | ipid, [] => ipid
  | ipid, build :: rest =>
    if c.buildIndex.toNat > build.buildEnd.toNat then searchIpid c ipid rest
    else if c.buildIndex.toNat ≥ build.buildBegin.toNat ∧
        c.areaIndex.toNat ≤ build.buildEnd.toNat then
      build.IPID
    else searchIpid c ipid rest

/-- The room's place in its cell: the devices of the rooms before it. -/
def roomOffset (c : CodeFields) (cell : Cell) : R :=
  ((c.floorIndex.toNat : R) - cell.floorBegin.toNat) *
      ((cell.roomEnd.toNat : R) - cell.roomBegin.toNat + 1) *
      ((cell.inDoorCount.toNat : R) + cell.secondOutDoorCount.toNat) +
    ((c.doorIndex.toNat : R) - cell.roomBegin.toNat) *
      ((cell.inDoorCount.toNat : R) + cell.secondOutDoorCount.toNat)

/-- The switch inside the device's cell. -/
def numberInCell (type : DeviceType) (c : CodeFields) (cell : Cell) (s : R × MachineInfo) :
    R × MachineInfo :=
  match type with
  | .room =>
    (s.1 + (cell.outDoorCount.toNat + roomOffset c cell + cell.secondOutDoorCount.toNat +
        c.subMachineIndex.toNat),
      { s.2 with number := cell.inDoorCount, index := c.subMachineIndex })
  | .cellDoor =>
    (s.1 + c.subMachineIndex.toNat,
      { s.2 with number := cell.outDoorCount, index := c.subMachineIndex })
  | .houseDoor =>
    (s.1 + (cell.outDoorCount.toNat + roomOffset c cell + c.subMachineIndex.toNat),
      { s.2 with number := cell.secondOutDoorCount, index := c.subMachineIndex })
  | _ => s

/-- The loop over the cells of the device's building. It leaves at the device's cell. -/
def numberCells (type : DeviceType) (c : CodeFields) : List Cell → R × MachineInfo → R × MachineInfo
  | [], s => s
  | cell :: rest, s =>
    if c.cellIndex.toNat > cell.cellEnd.toNat then
      numberCells type c rest (s.1 + cellRangeMachineNumber cell, s.2)
    else if c.cellIndex.toNat ≥ cell.cellBegin.toNat ∧ c.cellIndex.toNat ≤ cell.cellEnd.toNat then
      numberInCell type c cell
        (s.1 + ((c.cellIndex.toNat : R) - cell.cellBegin.toNat) * calculationCellMachineNumber cell,
          s.2)
    else numberCells type c rest s

/-- The loop over the buildings of the device's subnet, which goes on past the device's. -/
def numberBuilds (type : DeviceType) (c : CodeFields) :
    List Build → R × MachineInfo → R × MachineInfo
  | [], s => s
  | build :: rest, s =>
    numberBuilds type c rest <|
      if build.IPID = s.2.ipid then
        if c.buildIndex.toNat > build.buildEnd.toNat then (s.1 + buildRangeMachineNumber build, s.2)
        else if c.buildIndex.toNat ≥ build.buildBegin.toNat ∧
            c.areaIndex.toNat ≤ build.buildEnd.toNat then
          numberCells type c build.model.cellList
            (s.1 + ((c.buildIndex.toNat : R) - build.buildBegin.toNat) *
              calculationBuildMachineNumber build, s.2)
        else s
      else s

/-- The numbering of a building device: `machineNumber` and `*machineInfo`. -/
def numberBuildingDevice (type : DeviceType) (c : CodeFields) (area : Area)
    (machineInfo : MachineInfo) : R × MachineInfo :=
  numberBuilds type c area.buildList
    (0, { machineInfo with ipid := searchIpid c machineInfo.ipid area.buildList })

/-! ### `initMachineInfo` -/

/-- The numbering switch, for parameters that passed the first one. -/
def numberDevice (machineCode : ULongLong) (area : Area) (machineInfo : MachineInfo) :
    R × MachineInfo :=
  let c := praseMachineCode machineCode
  let machineInfo := { machineInfo with machineCode := machineCode }
  match DeviceType.ofValue c.machineIndex with
  | none => (0, machineInfo)
  | some type =>
    match guardIndex type with
    | some g => numberGuardDevice c area g machineInfo
    | none => numberBuildingDevice type c area machineInfo

variable [CInt R]

/-- `initMachineInfo`: the returned machine number and `*machineInfo` after the call. -/
def initMachineInfo (machineCode : ULongLong) (area : Option Area) (machineInfo : MachineInfo) :
    Except Fault (R × MachineInfo) :=
  match area with
  | none =>
    .ok (0, { machineInfo with
      machineIPInfo := (calculationIP none (0 : R) (machineInfo.ipid.setWidth 32)
        machineInfo.machineIPInfo).2 })
  | some area => do
    if ← checkParameters (praseMachineCode machineCode) area then
      let (machineNumber, machineInfo) := numberDevice machineCode area machineInfo
      return (machineNumber, { machineInfo with
        machineIPInfo := (calculationIP (some area) machineNumber (machineInfo.ipid.setWidth 32)
          machineInfo.machineIPInfo).2 })
    else return (0, machineInfo)

end Definitions

end DoorIntercom
