import DoorIntercom.Area.SearchCursors

/-!
# The area index

The loops of `initMachineInfo` that look for a building compare the **area** index with the end of
the building's range, where the building index was meant: an entry that holds the building number is
passed over if the area index is larger than its end. That is the only use of the area index, so two
codes that differ in it alone are treated alike if it is on the same side of that end for both
(`observe_initMachineInfo_congr`). If it is not, and both searches have a result, the results differ
exactly for a device that is configured there (`sameNumbering_iff`).
-/

namespace DoorIntercom

/-- What `initMachineInfo` returns and leaves, the code itself aside. -/
def observe (r : Word × MachineInfo) : Word × UChar × UChar × UChar × MachineIPInfo :=
  (r.1, r.2.number, r.2.index, r.2.ipid, r.2.machineIPInfo)

/-- Two codes are numbered and addressed alike, whatever `*machineInfo` holds before: both calls
have a result, and it is the same. -/
def SameNumbering (area : Area) (machineCode machineCode' : ULongLong) : Prop :=
  ∀ machineInfo, ∃ r r' : Word × MachineInfo,
    initMachineInfo machineCode (some area) machineInfo = .ok r ∧
      initMachineInfo machineCode' (some area) machineInfo = .ok r' ∧ observe r = observe r'

/-- The searches for the device of a building have a result: there is an entry at which the search
for the building stops, and it has cells if it holds the building number. -/
def SearchFinds (area : Area) (c : CodeFields) : Prop :=
  (DeviceType.ofValue c.machineIndex).any isBuildingType →
    ∃ build, searchedBuild c area.buildList = some build ∧
      (build.Contains c.buildIndex.toNat → build.model.cellList ≠ [])

/-- The end of the entry that holds the building number lies between the area indexes of two codes
of a building device, and the device exists there. -/
def AreaMatters (area : Area) (c c' : CodeFields) : Prop :=
  ∃ build ∈ area.buildList, build.Contains c.buildIndex.toNat ∧
    ¬ (c.areaIndex.toNat ≤ build.buildEnd.toNat ↔ c'.areaIndex.toNat ≤ build.buildEnd.toNat) ∧
    ∃ type x, DeviceType.ofValue c.machineIndex = some type ∧ cellDeviceOf type c = some x ∧
      (placedDevice c x).ConfiguredCell build.model.cellList

/-- Two calls return and leave the same, or have no result for the same reason. -/
def SameResult (area : Area) (machineCode machineCode' : ULongLong) : Prop :=
  ∀ machineInfo, (initMachineInfo machineCode (some area) machineInfo).map observe =
    (initMachineInfo machineCode' (some area) machineInfo).map observe

theorem SameResult.symm {area : Area} {machineCode machineCode' : ULongLong}
    (h : SameResult area machineCode machineCode') : SameResult area machineCode' machineCode :=
  fun machineInfo ↦ (h machineInfo).symm

theorem searchFinds_iff {area : Area} {machineCode : ULongLong} :
    SearchFinds area (praseMachineCode machineCode) ↔
      ∀ machineInfo, ∃ r : Word × MachineInfo,
        initMachineInfo machineCode (some area) machineInfo = .ok r := by
  rw [SearchFinds, ← checkParameters_isOk_iff]
  exact ⟨fun h _ ↦ initMachineInfo_isOk_iff.2 h,
    fun h ↦ initMachineInfo_isOk_iff.1 (h ⟨0, 0, 0, 0, ⟨0, 0, 0⟩⟩)⟩

theorem sameNumbering_iff_sameResult {area : Area} {machineCode machineCode' : ULongLong} :
    SameNumbering area machineCode machineCode' ↔
      SearchFinds area (praseMachineCode machineCode) ∧
        SearchFinds area (praseMachineCode machineCode') ∧
          SameResult area machineCode machineCode' := by
  rw [searchFinds_iff, searchFinds_iff]
  constructor
  · intro h
    refine ⟨fun machineInfo ↦ ?_, fun machineInfo ↦ ?_, fun machineInfo ↦ ?_⟩
    · obtain ⟨r, -, hr, -⟩ := h machineInfo
      exact ⟨r, hr⟩
    · obtain ⟨-, r', -, hr', -⟩ := h machineInfo
      exact ⟨r', hr'⟩
    · obtain ⟨r, r', hr, hr', hobserve⟩ := h machineInfo
      rw [hr, hr']
      exact congrArg Except.ok hobserve
  · rintro ⟨hfinds, hfinds', hsame⟩ machineInfo
    obtain ⟨r, hr⟩ := hfinds machineInfo
    obtain ⟨r', hr'⟩ := hfinds' machineInfo
    have heq := hsame machineInfo
    rw [hr, hr'] at heq
    exact ⟨r, r', hr, hr', Except.ok.inj heq⟩

/-! ### The same side of the end -/

section Congr

variable {c : CodeFields} {a : Word} {type : DeviceType}

/-- The area index of a code and another one are on the same side of the end of every entry that
holds the building number. -/
def SameSide (c : CodeFields) (a : Word) (builds : List Build) : Prop :=
  ∀ b ∈ builds, b.Contains c.buildIndex.toNat →
    (a.toNat ≤ b.buildEnd.toNat ↔ c.areaIndex.toNat ≤ b.buildEnd.toNat)

theorem SameSide.tail {b : Build} {builds : List Build} (h : SameSide c a (b :: builds)) :
    SameSide c a builds := fun b' hb' ↦ h b' (List.mem_cons_of_mem _ hb')

/-- The test of the loops, for an entry that does not end before the building. -/
theorem SameSide.and_iff {b : Build} {builds : List Build} (h : SameSide c a (b :: builds))
    (hpast : ¬ c.buildIndex.toNat > b.buildEnd.toNat) :
    (c.buildIndex.toNat ≥ b.buildBegin.toNat ∧ a.toNat ≤ b.buildEnd.toNat) ↔
      (c.buildIndex.toNat ≥ b.buildBegin.toNat ∧ c.areaIndex.toNat ≤ b.buildEnd.toNat) :=
  and_congr_right fun hbegin ↦ h b List.mem_cons_self ⟨hbegin, Nat.not_lt.1 hpast⟩

theorem searchBuild_congr {builds : List Build} (h : SameSide c a builds) (cur : Option Build) :
    searchBuild { c with areaIndex := a } cur builds = searchBuild c cur builds := by
  induction builds generalizing cur with
  | nil => rfl
  | cons b builds ih =>
    by_cases hpast : c.buildIndex.toNat > b.buildEnd.toNat
    · simp only [searchBuild, if_pos hpast, ih h.tail]
    · simp only [searchBuild, if_neg hpast, h.and_iff hpast, ih h.tail]

theorem searchIpid_congr {builds : List Build} (h : SameSide c a builds) (ipid : UChar) :
    searchIpid { c with areaIndex := a } ipid builds = searchIpid c ipid builds := by
  induction builds with
  | nil => rfl
  | cons b builds ih =>
    by_cases hpast : c.buildIndex.toNat > b.buildEnd.toNat
    · simp only [searchIpid, if_pos hpast, ih h.tail]
    · simp only [searchIpid, if_neg hpast, h.and_iff hpast, ih h.tail]

theorem searchCell_congr (cur : Option Cell) (cells : List Cell) :
    searchCell { c with areaIndex := a } cur cells = searchCell c cur cells := by
  induction cells generalizing cur with
  | nil => rfl
  | cons cell cells ih => simp only [searchCell, ih]

/-- The result of a numbering with another code in `*machineInfo`. -/
def withCode (x : ULongLong) (s : Word × MachineInfo) : Word × MachineInfo :=
  (s.1, { s.2 with machineCode := x })

theorem numberCells_congr (x : ULongLong) (cells : List Cell) (s : Word × MachineInfo) :
    numberCells type { c with areaIndex := a } cells (withCode x s) =
      withCode x (numberCells type c cells s) := by
  induction cells generalizing s with
  | nil => rfl
  | cons cell cells ih =>
    rw [numberCells, numberCells]
    split_ifs
    · exact ih (s.1 + cellRangeMachineNumber cell, s.2)
    · cases type <;> rfl
    · exact ih s

theorem numberBuilds_congr {builds : List Build} (h : SameSide c a builds) (x : ULongLong)
    (s : Word × MachineInfo) :
    numberBuilds type { c with areaIndex := a } builds (withCode x s) =
      withCode x (numberBuilds type c builds s) := by
  induction builds generalizing s with
  | nil => rfl
  | cons b builds ih =>
    rw [numberBuilds, numberBuilds, ← ih h.tail]
    congr 1
    by_cases hpast : c.buildIndex.toNat > b.buildEnd.toNat
    · simp only [if_pos hpast]
      show (if b.IPID = s.2.ipid then _ else _) = _
      split_ifs <;> rfl
    · simp only [if_neg hpast, h.and_iff hpast]
      show (if b.IPID = s.2.ipid then _ else _) = _
      split_ifs
      · exact numberCells_congr x b.model.cellList
          (s.1 + ((c.buildIndex.toNat : Word) - b.buildBegin.toNat) *
            calculationBuildMachineNumber b, s.2)
      · rfl
      · rfl

end Congr

section Observe

variable {area : Area} {machineCode machineCode' : ULongLong} {a : Word} {type : DeviceType}
  {x : CellDevice} {build : Build} {l₁ l₂ : List Build}

theorem checkParameters_congr {c : CodeFields} (h : SameSide c a area.buildList) :
    checkParameters { c with areaIndex := a } area = checkParameters c area := by
  have hbuilding (type : DeviceType) :
      checkBuildingDevice type { c with areaIndex := a } area =
        checkBuildingDevice type c area := by
    rw [checkBuildingDevice, checkBuildingDevice, searchBuild_congr h]
    simp only [searchCell_congr]
    cases type <;> rfl
  rw [checkParameters, checkParameters]
  simp only [hbuilding]

theorem numberDevice_congr {machineInfo : MachineInfo}
    (hcodes : praseMachineCode machineCode' = { praseMachineCode machineCode with areaIndex := a })
    (h : SameSide (praseMachineCode machineCode) a area.buildList) :
    numberDevice (R := Word) machineCode' area machineInfo =
      withCode machineCode' (numberDevice machineCode area machineInfo) := by
  simp only [numberDevice, hcodes]
  cases DeviceType.ofValue (praseMachineCode machineCode).machineIndex with
  | none => rfl
  | some type =>
    simp only []
    cases guardIndex type with
    | some g => rfl
    | none =>
      simp only [numberBuildingDevice, searchIpid_congr h]
      exact numberBuilds_congr h machineCode' (0, { machineInfo with
        machineCode := machineCode
        ipid := searchIpid (praseMachineCode machineCode) machineInfo.ipid area.buildList })

/-- **On the same side of the end**, two codes that differ in the area index alone are numbered and
addressed alike. -/
theorem observe_initMachineInfo_congr
    (hcodes : praseMachineCode machineCode' = { praseMachineCode machineCode with areaIndex := a })
    (h : SameSide (praseMachineCode machineCode) a area.buildList) :
    SameResult area machineCode machineCode' := by
  intro machineInfo
  have hcheck : checkParameters (praseMachineCode machineCode') area =
      checkParameters (praseMachineCode machineCode) area := by
    rw [hcodes, checkParameters_congr h]
  rcases hok : checkParameters (praseMachineCode machineCode) area with f | _ | _
  · rw [initMachineInfo_of_fault hok, initMachineInfo_of_fault (hcheck.trans hok)]
  · rw [initMachineInfo_of_refused hok, initMachineInfo_of_refused (hcheck.trans hok)]
  · rw [initMachineInfo_of_accepted hok, initMachineInfo_of_accepted (hcheck.trans hok),
      numberDevice_congr hcodes h]
    rfl

/-! ### Different sides of the end -/

/-- Codes that differ in the area index alone denote the same device. -/
theorem sameDevice
    (hcodes : praseMachineCode machineCode' = { praseMachineCode machineCode with areaIndex := a })
    (hb : build.Contains (praseMachineCode machineCode).buildIndex.toNat)
    (htype : DeviceType.ofValue (praseMachineCode machineCode).machineIndex = some type)
    (hx : cellDeviceOf type (praseMachineCode machineCode) = some x) :
    build.Contains (praseMachineCode machineCode').buildIndex.toNat ∧
      DeviceType.ofValue (praseMachineCode machineCode').machineIndex = some type ∧
      cellDeviceOf type (praseMachineCode machineCode') = some x ∧
      placedDevice (praseMachineCode machineCode') x =
        placedDevice (praseMachineCode machineCode) x := by
  rw [hcodes]
  exact ⟨hb, htype, hx, rfl⟩

/-- A code of no building device does not depend on the area index. -/
theorem sameResult_of_cellDeviceOf
    (hcodes : praseMachineCode machineCode' = { praseMachineCode machineCode with areaIndex := a })
    (h : (DeviceType.ofValue (praseMachineCode machineCode).machineIndex).bind
      (cellDeviceOf · (praseMachineCode machineCode)) = none) :
    SameResult area machineCode machineCode' := by
  intro machineInfo
  have hdevice : deviceOf (praseMachineCode machineCode') =
      deviceOf (praseMachineCode machineCode) := by
    rw [hcodes]
    rfl
  rcases hdev : deviceOf (praseMachineCode machineCode) with _ | d
  · rw [initMachineInfo_of_no_device hdev, initMachineInfo_of_no_device (hdevice.trans hdev)]
  · obtain ⟨type, htype, hd⟩ := Option.bind_eq_some_iff.1 hdev
    rw [htype, Option.bind_some] at h
    rw [deviceOfType, h] at hd
    rcases hg : guardIndex type with _ | g
    · rw [hg] at hd
      cases hd
    · have htype' :
          DeviceType.ofValue (praseMachineCode machineCode').machineIndex = some type := by
        rw [hcodes]
        exact htype
      rw [initMachineInfo_guard htype hg, initMachineInfo_guard htype' hg]
      simp only [hcodes]
      split_ifs <;> rfl

/-- The search has found a building without the device: the code is refused. -/
theorem initMachineInfo_of_search_not_configured {machineInfo : MachineInfo}
    (h : area.RangesOrdered) (hmem : build ∈ area.buildList)
    (hsearch : searchBuild (praseMachineCode machineCode) none area.buildList = some build)
    (hb : build.Contains (praseMachineCode machineCode).buildIndex.toNat)
    (hcells : build.model.cellList ≠ [])
    (htype : DeviceType.ofValue (praseMachineCode machineCode).machineIndex = some type)
    (hx : cellDeviceOf type (praseMachineCode machineCode) = some x)
    (hd : ¬ (placedDevice (praseMachineCode machineCode) x).ConfiguredCell build.model.cellList) :
    initMachineInfo machineCode (some area) machineInfo = .ok ((0 : Word), machineInfo) := by
  apply initMachineInfo_of_refused
  rw [checkParameters_building htype hx,
    checkBuildingDevice_of_search hsearch hb (h.cells build hmem) hcells hx, decide_eq_false hd]

/-- A search with a result: an entry at which it stops has cells if it holds the building number. -/
theorem SearchFinds.cellList_ne_nil
    (hfinds : SearchFinds area (praseMachineCode machineCode))
    (hsearch : searchBuild (praseMachineCode machineCode) none area.buildList = some build)
    (hb : build.Contains (praseMachineCode machineCode).buildIndex.toNat)
    (htype : DeviceType.ofValue (praseMachineCode machineCode).machineIndex = some type)
    (hx : cellDeviceOf type (praseMachineCode machineCode) = some x) :
    build.model.cellList ≠ [] := by
  have hbuilding : isBuildingType type = true := by
    cases type <;> first | rfl | simp [cellDeviceOf] at hx
  obtain ⟨build', hbuild', hcells⟩ := hfinds (by rw [htype]; exact hbuilding)
  rw [searchBuild_eq_searchedBuild, Option.or_none, hbuild'] at hsearch
  cases hsearch
  exact hcells hb

theorem ne_add_one (x : UChar) : x ≠ x + 1#8 := by
  intro h
  have hval := congrArg BitVec.toNat h
  rw [BitVec.toNat_add, BitVec.toNat_ofNat] at hval
  omega

/-- A configured device that the search finds gets its own `index`; one whose search has gone on
keeps the `index` of the call before, or is refused. -/
theorem not_sameResult_of_configured (h : area.RangesOrdered) (hmem : build ∈ area.buildList)
    (hb : build.Contains (praseMachineCode machineCode).buildIndex.toNat)
    (ha : (praseMachineCode machineCode).areaIndex.toNat ≤ build.buildEnd.toNat)
    (htype : DeviceType.ofValue (praseMachineCode machineCode).machineIndex = some type)
    (hx : cellDeviceOf type (praseMachineCode machineCode) = some x)
    (hd : (placedDevice (praseMachineCode machineCode) x).ConfiguredCell build.model.cellList)
    (hkeeps : ∀ machineInfo : MachineInfo, ∃ r : Word × MachineInfo,
      initMachineInfo machineCode' (some area) machineInfo = .ok r ∧
        r.2.index = machineInfo.index) :
    ¬ SameResult area machineCode machineCode' := by
  intro hsame
  -- the two results differ once the `index` of the call before is not the device's own
  obtain ⟨r, hr, hindex⟩ :=
    hkeeps ⟨0, (praseMachineCode machineCode).subMachineIndex + 1#8, 0, 0, ⟨0, 0, 0⟩⟩
  have heq := hsame ⟨0, (praseMachineCode machineCode).subMachineIndex + 1#8, 0, 0, ⟨0, 0, 0⟩⟩
  obtain ⟨cell, hcell, hc, hconf⟩ := hd
  rw [initMachineInfo_building htype hx h hmem hb ha hcell hc hconf, hr] at heq
  have hindex' := congrArg (fun r ↦ r.2.2.1) (Except.ok.inj heq)
  exact ne_add_one _ (hindex'.trans hindex)

/-- **On different sides of the end**, the results are the same unless the device is configured. -/
theorem sameResult_of_between (h : area.RangesOrdered)
    (hcodes : praseMachineCode machineCode' = { praseMachineCode machineCode with areaIndex := a })
    (hmem : build ∈ area.buildList)
    (hb : build.Contains (praseMachineCode machineCode).buildIndex.toNat)
    (ha : (praseMachineCode machineCode).areaIndex.toNat ≤ build.buildEnd.toNat)
    (ha' : ¬ a.toNat ≤ build.buildEnd.toNat)
    (htype : DeviceType.ofValue (praseMachineCode machineCode).machineIndex = some type)
    (hx : cellDeviceOf type (praseMachineCode machineCode) = some x)
    (hfinds : SearchFinds area (praseMachineCode machineCode)) :
    SameResult area machineCode machineCode' ↔
      ¬ (placedDevice (praseMachineCode machineCode) x).ConfiguredCell build.model.cellList := by
  obtain ⟨l₁, l₂, hl, -, -⟩ := h.split_build hmem hb
  obtain ⟨hb', htype', hx', hplaced⟩ := sameDevice hcodes hb htype hx
  have ha' : ¬ (praseMachineCode machineCode').areaIndex.toNat ≤ build.buildEnd.toNat := by
    rw [hcodes]
    exact ha'
  have hsearch := searchBuild_eq h hmem hb ha
  have hcells := hfinds.cellList_ne_nil hsearch hb htype hx
  cases l₂ with
  | nil =>
    by_cases hd : (placedDevice (praseMachineCode machineCode) x).ConfiguredCell
        build.model.cellList
    · refine iff_of_false (not_sameResult_of_configured h hmem hb ha htype hx hd
        fun machineInfo ↦ ?_) (not_not_intro hd)
      exact ⟨_, initMachineInfo_of_passedOver_end htype' hx' hb' ha' hl h ⟨hb', hplaced ▸ hd⟩, rfl⟩
    · -- the other code's search is left on the building too
      obtain ⟨hl₁, -⟩ := (hl ▸ h.builds).around l₁ hb
      have hsearch' : searchBuild (praseMachineCode machineCode') none area.buildList =
          some build := by
        rw [hl, searchBuild_of_contains (by rw [hcodes]; exact hl₁) hb' (by simp), if_neg ha']
        rfl
      refine iff_of_true (fun machineInfo ↦ ?_) hd
      rw [initMachineInfo_of_search_not_configured h hmem hsearch hb hcells htype hx hd,
        initMachineInfo_of_search_not_configured h hmem hsearch' hb' hcells htype' hx'
          (hplaced ▸ hd)]
  | cons next rest =>
    have hrefused (machineInfo : MachineInfo) :
        initMachineInfo (R := Word) machineCode' (some area) machineInfo = _ :=
      initMachineInfo_of_passedOver_next htype' hx' hb' ha' hl h
    by_cases hd : (placedDevice (praseMachineCode machineCode) x).ConfiguredCell
        build.model.cellList
    · exact iff_of_false (not_sameResult_of_configured h hmem hb ha htype hx hd
        fun machineInfo ↦ ⟨_, hrefused machineInfo, rfl⟩) (not_not_intro hd)
    · refine iff_of_true (fun machineInfo ↦ ?_) hd
      rw [initMachineInfo_of_search_not_configured h hmem hsearch hb hcells htype hx hd, hrefused]

end Observe

section Matters

variable {area : Area} {c c' : CodeFields} {type : DeviceType} {x : CellDevice} {build : Build}

/-- Only the entry that holds the building number matters. -/
theorem areaMatters_iff_of_mem (h : area.RangesOrdered) (hmem : build ∈ area.buildList)
    (hb : build.Contains c.buildIndex.toNat)
    (hside : ¬ (c.areaIndex.toNat ≤ build.buildEnd.toNat ↔
      c'.areaIndex.toNat ≤ build.buildEnd.toNat))
    (htype : DeviceType.ofValue c.machineIndex = some type)
    (hx : cellDeviceOf type c = some x) :
    AreaMatters area c c' ↔ (placedDevice c x).ConfiguredCell build.model.cellList := by
  constructor
  · rintro ⟨build', hmem', hb', -, type', x', htype', hx', hmatters⟩
    obtain rfl := h.builds.unique hmem hmem' hb hb'
    rw [htype] at htype'
    cases htype'
    rw [hx] at hx'
    cases hx'
    exact hmatters
  · exact fun hmatters ↦ ⟨build, hmem, hb, hside, type, x, htype, hx, hmatters⟩

/-- A code that is not one of a building device does not depend on the area index. -/
theorem not_areaMatters_of_cellDeviceOf
    (h : (DeviceType.ofValue c.machineIndex).bind (cellDeviceOf · c) = none) :
    ¬ AreaMatters area c c' := by
  rintro ⟨-, -, -, -, type, x, htype, hx, -⟩
  rw [htype, Option.bind_some, hx] at h
  cases h

theorem not_areaMatters_of_sameSide (h : SameSide c c'.areaIndex area.buildList) :
    ¬ AreaMatters area c c' := by
  rintro ⟨build, hmem, hb, hside, -⟩
  exact hside (h build hmem hb).symm

end Matters

/-- **The area index does not influence numbering or addressing**, in any area with ordered ranges,
for two codes that differ in it alone, if and only if the searches of both have a result and no end
of a range lies between the two area indexes where it matters. -/
theorem sameNumbering_iff {area : Area} (h : area.RangesOrdered)
    {machineCode machineCode' : ULongLong}
    (hcodes : praseMachineCode machineCode' = { praseMachineCode machineCode with
      areaIndex := (praseMachineCode machineCode').areaIndex }) :
    SameNumbering area machineCode machineCode' ↔
      SearchFinds area (praseMachineCode machineCode) ∧
        SearchFinds area (praseMachineCode machineCode') ∧
          ¬ AreaMatters area (praseMachineCode machineCode) (praseMachineCode machineCode') := by
  rw [sameNumbering_iff_sameResult]
  refine and_congr_right fun hfinds ↦ and_congr_right fun hfinds' ↦ ?_
  by_cases hside : SameSide (praseMachineCode machineCode)
      (praseMachineCode machineCode').areaIndex area.buildList
  · exact iff_of_true (observe_initMachineInfo_congr hcodes hside)
      (not_areaMatters_of_sameSide hside)
  rcases hdevice : (DeviceType.ofValue (praseMachineCode machineCode).machineIndex).bind
    (cellDeviceOf · (praseMachineCode machineCode)) with _ | x
  · exact iff_of_true (sameResult_of_cellDeviceOf hcodes hdevice)
      (not_areaMatters_of_cellDeviceOf hdevice)
  · obtain ⟨type, htype, hx⟩ := Option.bind_eq_some_iff.1 hdevice
    simp only [SameSide, not_forall] at hside
    obtain ⟨build, hmem, hb, hside⟩ := hside
    rw [areaMatters_iff_of_mem h hmem hb (fun hiff ↦ hside hiff.symm) htype hx]
    by_cases ha : (praseMachineCode machineCode).areaIndex.toNat ≤ build.buildEnd.toNat
    · exact sameResult_of_between h hcodes hmem hb ha (fun ha' ↦ hside (iff_of_true ha' ha)) htype
        hx hfinds
    · -- the other way round
      have ha' : (praseMachineCode machineCode').areaIndex.toNat ≤ build.buildEnd.toNat := by
        by_contra ha'
        exact hside (iff_of_false ha' ha)
      have hcodes' : praseMachineCode machineCode = { praseMachineCode machineCode' with
          areaIndex := (praseMachineCode machineCode).areaIndex } := by
        rw [hcodes]
      obtain ⟨hb', htype', hx', hplaced⟩ := sameDevice hcodes hb htype hx
      have hsame := sameResult_of_between h hcodes' hmem hb' ha' ha htype' hx' hfinds'
      rw [hplaced] at hsame
      exact ⟨fun hs ↦ hsame.1 hs.symm, fun hs ↦ (hsame.2 hs).symm⟩

/-- Building 3 of the sample estate, for the area indexes 1 and 3. -/
theorem sameNumbering_building3 :
    SameNumbering sampleArea 0x0010030010101011#64 0x0030030010101011#64 := by
  refine (sameNumbering_iff sampleArea_ordered.toRangesOrdered (by decide)).2
    ⟨searchFinds_iff.2 fun _ ↦ ⟨_, rfl⟩, searchFinds_iff.2 fun _ ↦ ⟨_, rfl⟩,
      not_areaMatters_of_sameSide fun b hb hcontains ↦ ?_⟩
  simp only [sampleArea, List.mem_cons, List.not_mem_nil, or_false] at hb
  rcases hb with rfl | rfl
  · exact absurd hcontains (by decide)
  · decide

/-- Building 2, for the area indexes 1 and 3: the search passes over its range, which ends at 2. -/
theorem not_sameNumbering_building2 :
    sampleArea.RangesOrdered ∧
      praseMachineCode 0x0030020010201011#64 =
        { praseMachineCode 0x0010020010201011#64 with areaIndex := 3#32 } ∧
      ¬ SameNumbering sampleArea 0x0010020010201011#64 0x0030020010201011#64 := by
  refine ⟨sampleArea_ordered.toRangesOrdered, by decide, fun h ↦ ?_⟩
  have heq := congrArg (fun r ↦ r.map Prod.fst)
    ((sameNumbering_iff_sameResult.1 h).2.2 ⟨0, 0, 0, 0, ⟨0, 0, 0⟩⟩)
  exact absurd heq (by decide)

end DoorIntercom
