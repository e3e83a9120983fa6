import DoorIntercom.Area.ErrorContract

/-!
# The targets of a call

`getObjectMachineInfo` answers how many devices of a type a device can call, and the machine code of
the first of them: a device of the area has no targets, a door has no indoor stations, and
everything else is counted in the source's own cell or in the `Guard` record of the type.

Its searches are not those of `initMachineInfo`. The one for the building leaves **only at an entry
that begins at or after the building number**, so it stays with the source's own entry only for the
first building of the range or in the last entry of the list (`searchObjectBuild_of_contains`). The
one for the cell is right (`countObjects_eq`), but its switch asks for the floor and the room for
indoor stations alone. And the code it answers with has gone through `GENERATE_MACHINE_CODE`, which
keeps four bits of the cell index.
-/

namespace DoorIntercom

/-- The loop that looks for the building: `build` after it, from the cursor's value before. -/
def searchObjectBuild (c : CodeFields) : Option Build → List Build → Option Build
  | build, [] => build
  | _, build :: rest =>
    if c.buildIndex.toNat > build.buildEnd.toNat then searchObjectBuild c (some build) rest
    else if c.buildIndex.toNat ≤ build.buildEnd.toNat ∧
        c.buildIndex.toNat ≤ build.buildBegin.toNat then some build
    else searchObjectBuild c (some build) rest

/-- The switch inside the cell: `num`, and the fields with the floor and the room of a cell door. -/
def countInCell (type : DeviceType) (c : CodeFields) (cell : Cell) : ℤ × CodeFields :=
  match type with
  | .room =>
    (if c.floorIndex.toNat ≥ cell.floorBegin.toNat ∧ c.floorIndex.toNat ≤ cell.floorEnd.toNat ∧
        c.doorIndex.toNat ≥ cell.roomBegin.toNat ∧ c.doorIndex.toNat ≤ cell.roomEnd.toNat then
      (cell.inDoorCount.toNat : ℤ) else 0, c)
  | .cellDoor => (cell.outDoorCount.toNat, { c with floorIndex := 1#8, doorIndex := 1#8 })
  | .houseDoor => (cell.secondOutDoorCount.toNat, c)
  | _ => (0, c)

/-- The loop that looks for the cell and counts in it. -/
def countObjects (type : DeviceType) (c : CodeFields) : List Cell → ℤ × CodeFields
  | [] => (0, c)
  | cell :: rest =>
    if c.cellIndex.toNat > cell.cellEnd.toNat then countObjects type c rest
    else if c.cellIndex.toNat ≤ cell.cellEnd.toNat ∧ c.cellIndex.toNat ≥ cell.cellBegin.toNat then
      countInCell type c cell
    else countObjects type c rest

/-- The types that belong to the area and to no building. -/
def isAreaType (type : DeviceType) : Bool :=
  type = .guard || type = .monitor || type = .areaDoor || type = .manager

/-- The number of devices of an area type. -/
def countAreaDevices (area : Area) (type : DeviceType) : ℤ :=
  match type with
  | .guard => guardCount (area.guard 2)
  | .areaDoor => guardCount (area.guard 1)
  | .manager => guardCount (area.guard 0)
  | _ => 0

/-- `getObjectMachineInfo`: the number of targets and `*destMachineCode`, which the early returns
leave as it was. The condition of the first one names `HOUSE_DOOR_TYPE` without comparing it, so
that it holds for every target type. -/
def getObjectMachineInfo (destMachineCode srcMachineCode : ULongLong) (area : Option Area)
    (type : DeviceType) : Except Fault (ℤ × ULongLong) :=
  let c := praseMachineCode srcMachineCode
  let source := DeviceType.ofValue c.machineIndex
  if source.any isAreaType &&
      (type = .room || type = .cellDoor || DeviceType.houseDoor.value != 0#8) then
    .ok (0, destMachineCode)
  else if (source = some .cellDoor || source = some .houseDoor) && type = .room then
    .ok (0, destMachineCode)
  else
    match area with
    | none => .ok (0, generateMachineCode c)
    | some area =>
      let c := { c with subMachineIndex := 1#8, machineIndex := type.value }
      if isAreaType type then
        .ok (countAreaDevices area type, generateMachineCode
          { c with doorIndex := 1#8, floorIndex := 1#8, cellIndex := 1#32, buildIndex := 1#32 })
      else
        match searchObjectBuild c none area.buildList with
        | none => .error .build
        | some build =>
          let (num, c) := countObjects type c build.model.cellList
          .ok (num, generateMachineCode c)

/-! ### The searches -/

section Search

variable {c : CodeFields}

/-- **The building search** keeps the entry of the building number for its first building, and goes
on to the next entry, if there is one, for the others. -/
theorem searchObjectBuild_of_contains {l₁ l₂ : List Build} {cur : Option Build} {build : Build}
    (hl₁ : ∀ b ∈ l₁, b.buildEnd.toNat < c.buildIndex.toNat)
    (hb : build.Contains c.buildIndex.toNat)
    (hl₂ : ∀ b ∈ l₂, c.buildIndex.toNat < b.buildBegin.toNat ∧
      b.buildBegin.toNat ≤ b.buildEnd.toNat) :
    searchObjectBuild c cur (l₁ ++ build :: l₂) =
      some (if c.buildIndex.toNat = build.buildBegin.toNat then build else l₂.headD build) := by
  induction l₁ generalizing cur with
  | nil =>
    have hin := hb
    rw [Build.Contains] at hin
    rw [List.nil_append, searchObjectBuild, if_neg (Nat.not_lt.2 hb.2)]
    by_cases hbegin : c.buildIndex.toNat = build.buildBegin.toNat
    · rw [if_pos (by omega), if_pos hbegin]
    · rw [if_neg (by omega), if_neg hbegin]
      cases l₂ with
      | nil => rfl
      | cons b l₂ =>
        obtain ⟨hlt, hle⟩ := hl₂ b List.mem_cons_self
        rw [searchObjectBuild, if_neg (by omega), if_pos (by omega)]
        rfl
  | cons b l₁ ih =>
    rw [List.cons_append, searchObjectBuild, if_pos (hl₁ b List.mem_cons_self),
      ih fun b' hb' ↦ hl₁ b' (List.mem_cons_of_mem _ hb')]

/-- The entry that holds the cell number. -/
def cellAt (cells : List Cell) (n : ℕ) : Option Cell :=
  cells.find? fun cell ↦ cell.Contains n

/-- **The cell search** counts in the entry that holds the cell number. -/
theorem countObjects_eq {type : DeviceType} (cells : List Cell) :
    countObjects type c cells =
      match cellAt cells c.cellIndex.toNat with
      | some cell => countInCell type c cell
      | none => (0, c) := by
  induction cells with
  | nil => rfl
  | cons cell rest ih =>
    rw [countObjects, ih, cellAt, cellAt]
    by_cases hc : cell.Contains c.cellIndex.toNat
    · rw [if_neg (Nat.not_lt.2 hc.2), if_pos ⟨hc.2, hc.1⟩,
        List.find?_cons_of_pos (by simpa using hc)]
    · rw [List.find?_cons_of_neg (by simpa using hc)]
      rw [Cell.Contains] at hc
      split_ifs
      · rfl
      · omega
      · rfl

end Search

end DoorIntercom
