import DoorIntercom.Area.TargetEnumeration
import DoorIntercom.Area.GetAreaInfo

/-!
# The cursors of the searches

The searches of `initMachineInfo` and `getObjectMachineInfo` leave their result in a cursor that is
not initialised, and an empty list does not assign it. `getAreaInfo` returns empty lists: of builds,
if no `BuildList` element has a model, and of cells, if a `Modol` has no `Item`.

The building search stops at the first entry that a simple condition holds of, and is left on the
last entry if there is none (`searchBuild_eq_searchedBuild`). That is the entry whose cells are
searched next, if it holds the building number. So whether a call reads a cursor that no search has
assigned can be read off the lists (`cursorsAssigned_iff`).
-/

namespace DoorIntercom

/-- The loops of the two functions assign every cursor before it is read. -/
def CursorsAssigned (area : Area) (machineCode : ULongLong) (type : DeviceType) : Prop :=
  (∀ machineInfo, ∃ r : Word × MachineInfo,
    initMachineInfo machineCode (some area) machineInfo = .ok r) ∧
  ∀ dest, ∃ r, getObjectMachineInfo dest machineCode (some area) type = .ok r

/-- The search for the building of a code leaves the loop at the entry. -/
def StopsAt (c : CodeFields) (build : Build) : Prop :=
  c.buildIndex.toNat ≤ build.buildEnd.toNat ∧
    (build.buildBegin.toNat ≤ c.buildIndex.toNat → c.areaIndex.toNat ≤ build.buildEnd.toNat)

instance (c : CodeFields) (build : Build) : Decidable (StopsAt c build) :=
  inferInstanceAs (Decidable (_ ∧ _))

/-- The first entry at which the search stops, else the last entry. -/
def searchedBuild (c : CodeFields) (builds : List Build) : Option Build :=
  (builds.find? fun build ↦ StopsAt c build).or builds.getLast?

/-- The source has no targets of the type: it is a device of the area, or a door that would call an
indoor station. -/
def isRefused (source : Option DeviceType) (type : DeviceType) : Bool :=
  source.any isAreaType || (source = some .cellDoor || source = some .houseDoor) && type = .room

/-- For a device of a building there is a build, and the one that is searched for its number has
cells. For a target in a building that is not refused there is a build. -/
def SearchesFind (area : Area) (machineCode : ULongLong) (type : DeviceType) : Prop :=
  let c := praseMachineCode machineCode
  let source := DeviceType.ofValue c.machineIndex
  (source.any isBuildingType → ∃ build, searchedBuild c area.buildList = some build ∧
    (build.Contains c.buildIndex.toNat → build.model.cellList ≠ [])) ∧
  (isBuildingType type → ¬ isRefused source type → area.buildList ≠ [])

section Cursors

variable {c : CodeFields} {area : Area} {machineCode : ULongLong} {type : DeviceType}

/-- **The cursor of the building search**, from its value before. -/
theorem searchBuild_eq_searchedBuild (cur : Option Build) (builds : List Build) :
    searchBuild c cur builds = (searchedBuild c builds).or cur := by
  induction builds generalizing cur with
  | nil => rfl
  | cons build builds ih =>
    have hrest : ¬ StopsAt c build →
        (searchedBuild c (build :: builds)).or cur = searchBuild c (some build) builds := by
      intro hnot
      rw [ih, searchedBuild, List.find?_cons_of_neg (by simpa using hnot), List.getLast?_cons,
        searchedBuild, Option.or_assoc, Option.or_assoc, Option.some_or]
      cases builds.getLast? <;> rfl
    have hstop : StopsAt c build →
        (searchedBuild c (build :: builds)).or cur = some build := by
      intro h
      rw [searchedBuild, List.find?_cons_of_pos (by simpa using h), Option.some_or, Option.some_or]
    rw [searchBuild]
    split_ifs with hpast hin hfront
    · exact (hrest fun h ↦ absurd h.1 (Nat.not_le.2 hpast)).symm
    · exact (hstop ⟨Nat.not_lt.1 hpast, fun _ ↦ hin.2⟩).symm
    · exact (hstop ⟨Nat.not_lt.1 hpast, fun hle ↦ absurd hle (Nat.not_le.2 hfront)⟩).symm
    · exact (hrest fun h ↦ hin ⟨Nat.not_lt.1 hfront, h.2 (Nat.not_lt.1 hfront)⟩).symm

theorem searchCell_eq_none_iff {cells : List Cell} :
    searchCell c none cells = none ↔ cells = [] := by
  constructor
  · intro hnone
    by_contra hne
    exact searchCell_ne_none (Or.inl hne) hnone
  · rintro rfl
    rfl

/-- A cursor is unassigned after the loop only if the list is empty. -/
theorem searchObjectBuild_eq_none_iff {cur : Option Build} {builds : List Build} :
    searchObjectBuild c cur builds = none ↔ builds = [] ∧ cur = none := by
  induction builds generalizing cur with
  | nil => simp [searchObjectBuild]
  | cons build builds ih =>
    rw [searchObjectBuild]
    split_ifs <;> simp [ih]

/-- **The parameter switch for a building device** reads no unassigned cursor exactly if there is
a build, and the searched one has cells if it holds the number. -/
theorem checkBuildingDevice_isOk_iff (type : DeviceType) :
    (∃ b, checkBuildingDevice type c area = .ok b) ↔
      ∃ build, searchedBuild c area.buildList = some build ∧
        (build.Contains c.buildIndex.toNat → build.model.cellList ≠ []) := by
  rw [checkBuildingDevice, searchBuild_eq_searchedBuild, Option.or_none]
  cases searchedBuild c area.buildList with
  | none => simp
  | some build =>
    have hout : (c.buildIndex.toNat < build.buildBegin.toNat ∨
        c.buildIndex.toNat > build.buildEnd.toNat) ↔ ¬ build.Contains c.buildIndex.toNat := by
      rw [Build.Contains]
      omega
    simp only [hout, Option.some.injEq, exists_eq_left']
    by_cases hb : build.Contains c.buildIndex.toNat
    · rw [if_neg (not_not.2 hb)]
      cases hcell : searchCell c none build.model.cellList with
      | none => simp [hb, searchCell_eq_none_iff.1 hcell]
      | some cell =>
        have hne : build.model.cellList ≠ [] := fun hnil ↦ by
          rw [searchCell_eq_none_iff.2 hnil] at hcell
          cases hcell
        simp only [hne, ne_eq, not_false_eq_true, implies_true, iff_true]
        split_ifs
        · exact ⟨_, rfl⟩
        · exact ⟨_, rfl⟩
    · simp [hb]

theorem checkParameters_isOk_iff : (∃ b, checkParameters c area = .ok b) ↔
    ((DeviceType.ofValue c.machineIndex).any isBuildingType →
      ∃ build, searchedBuild c area.buildList = some build ∧
        (build.Contains c.buildIndex.toNat → build.model.cellList ≠ [])) := by
  rw [checkParameters]
  cases DeviceType.ofValue c.machineIndex with
  | none => simp
  | some type =>
    rw [← checkBuildingDevice_isOk_iff type, Option.any_some]
    cases type with
    | room => exact ⟨fun h _ ↦ h, fun h ↦ h rfl⟩
    | cellDoor => exact ⟨fun h _ ↦ h, fun h ↦ h rfl⟩
    | houseDoor => exact ⟨fun h _ ↦ h, fun h ↦ h rfl⟩
    | monitor => exact ⟨fun _ h ↦ absurd h (by decide), fun _ ↦ ⟨_, rfl⟩⟩
    | guard => exact ⟨fun _ h ↦ absurd h (by decide), fun _ ↦ ⟨_, rfl⟩⟩
    | areaDoor => exact ⟨fun _ h ↦ absurd h (by decide), fun _ ↦ ⟨_, rfl⟩⟩
    | manager => exact ⟨fun _ h ↦ absurd h (by decide), fun _ ↦ ⟨_, rfl⟩⟩

/-- The numbering after the switch has no cursors. -/
theorem initMachineInfo_isOk_iff {machineInfo : MachineInfo} :
    (∃ r : Word × MachineInfo, initMachineInfo machineCode (some area) machineInfo = .ok r) ↔
      ∃ b, checkParameters (praseMachineCode machineCode) area = .ok b := by
  constructor
  · rintro ⟨r, hr⟩
    cases hcheck : checkParameters (praseMachineCode machineCode) area with
    | error f =>
      rw [initMachineInfo_of_fault hcheck] at hr
      cases hr
    | ok b => exact ⟨b, rfl⟩
  · rintro ⟨_ | _, hcheck⟩
    · exact ⟨_, initMachineInfo_of_refused hcheck⟩
    · exact ⟨_, initMachineInfo_of_accepted hcheck⟩

/-- **The enumeration** reads no unassigned cursor exactly if it is refused, or for a target of the
area, or there is a build. -/
theorem getObjectMachineInfo_isOk_iff {dest : ULongLong} :
    (∃ r, getObjectMachineInfo dest machineCode (some area) type = .ok r) ↔
      (isBuildingType type →
        ¬ isRefused (DeviceType.ofValue (praseMachineCode machineCode).machineIndex) type →
          area.buildList ≠ []) := by
  have hvalue : (DeviceType.houseDoor.value != 0#8) = true := by decide
  have htypes : isBuildingType type = !isAreaType type := by cases type <;> rfl
  simp only [getObjectMachineInfo, hvalue, Bool.or_true, Bool.and_true, isRefused, htypes]
  generalize DeviceType.ofValue (praseMachineCode machineCode).machineIndex = source
  cases harea : source.any isAreaType with
  | true => simp
  | false =>
    cases hdoor : (source = some .cellDoor || source = some .houseDoor) && type = .room with
    | true => simp
    | false =>
      cases htarget : isAreaType type with
      | true => simp
      | false =>
        cases hsearch : searchObjectBuild { praseMachineCode machineCode with
            subMachineIndex := 1#8, machineIndex := type.value } none area.buildList with
        | none => simp [(searchObjectBuild_eq_none_iff.1 hsearch).1]
        | some build =>
          have hne : area.buildList ≠ [] := fun hnil ↦ by
            rw [searchObjectBuild_eq_none_iff.2 ⟨hnil, rfl⟩] at hsearch
            cases hsearch
          simp [hne]

end Cursors

/-- **No search result is used unless the search assigned it**, in any area, for a code and a target
type, if and only if the searches of the two functions have something to find. -/
theorem cursorsAssigned_iff (area : Area) (machineCode : ULongLong) (type : DeviceType) :
    CursorsAssigned area machineCode type ↔ SearchesFind area machineCode type := by
  have hinit : (∀ machineInfo, ∃ r : Word × MachineInfo,
      initMachineInfo machineCode (some area) machineInfo = .ok r) ↔
        ∃ b, checkParameters (praseMachineCode machineCode) area = .ok b :=
    ⟨fun h ↦ initMachineInfo_isOk_iff.1 (h ⟨0, 0, 0, 0, ⟨0, 0, 0⟩⟩),
      fun h _ ↦ initMachineInfo_isOk_iff.2 h⟩
  have hobject :
      (∀ dest, ∃ r, getObjectMachineInfo dest machineCode (some area) type = .ok r) ↔ _ :=
    ⟨fun h ↦ getObjectMachineInfo_isOk_iff.1 (h 0), fun h _ ↦ getObjectMachineInfo_isOk_iff.2 h⟩
  rw [CursorsAssigned, hinit, hobject, checkParameters_isOk_iff, SearchesFind]

/-- A document without builds: the search for the building of an indoor station assigns nothing. -/
theorem not_cursorsAssigned_no_builds :
    ∃ block, getAreaInfo .zero (some (.element "NETCFG" [])) = .ok (some block) ∧
      ¬ CursorsAssigned block.area 0x0010020010201011#64 .room :=
  ⟨_, rfl, fun h ↦ by
    obtain ⟨r, hr⟩ := h.1 ⟨0, 0, 0, 0, ⟨0, 0, 0⟩⟩
    cases hr⟩

end DoorIntercom
