import DoorIntercom.Area.GetAreaInfo

/-!
# The buildings of a loaded configuration

A document lists buildings in its `BuildList` elements; `getAreaInfo` keeps one range of numbers for
each model. The loader merges by models, so what it keeps for a model is determined by the first of
the model's elements and by how many there are (`exists_contains_iff`). `keepsBuildings_iff`
compares the two: the loader neither loses nor invents a building exactly if the numbers that the
elements of a model list together run from the `BUILDBEGIN` of the first one to its `BUILDEND` plus
the number of the others.

The comparison is of the numbers as they are stored. Those are bytes, and they are stored in the
wrong fields if the `IPID` is there but empty (`storedEntry`); the `ID` of a model is stored only if
it is the first child (`storedId`).
-/

namespace DoorIntercom

open FallibleRun

/-! ### What a document says -/

/-- The number in the `ID` of a `Modol`. -/
def XmlNode.modolId (node : XmlNode) : Option ℤ :=
  ((node.child? "ID").bind XmlNode.xmlNodeGetContent).bind sscanf

/-- The node is a `BuildList` that lists the building number `b` for the model `m`. -/
def XmlNode.Lists (node : XmlNode) (m : ℤ) (b : ℕ) : Prop :=
  node.name = "BuildList" ∧ node.number "MODID" = some m ∧
    ∃ lo hi, node.number "BUILDBEGIN" = some lo ∧ node.number "BUILDEND" = some hi ∧
      lo ≤ b ∧ b ≤ hi

/-- The `Modol`s precede the `BuildList`s, and every `BuildList` has byte-sized numbers in order and
the `MODID` of some `Modol`. -/
structure WellFormed (nodes : List XmlNode) : Prop where
  models_first : nodes.Pairwise fun node node' ↦ node.name = "BuildList" → node'.name ≠ "Modol"
  entries : ∀ node ∈ nodes, node.name = "BuildList" →
    ∃ lo hi m, node.number "BUILDBEGIN" = some lo ∧ node.number "BUILDEND" = some hi ∧
      node.number "MODID" = some m ∧ 0 ≤ lo ∧ lo ≤ hi ∧ hi ≤ 255 ∧
        ∃ model ∈ nodes, model.name = "Modol" ∧ model.modolId = some m

/-- Loading the document keeps exactly the buildings that it lists. -/
def KeepsBuildings (junk : Junk) (nodes : List XmlNode) : Prop :=
  ∃ block, getAreaInfo junk (some (.element "NETCFG" nodes)) = .ok (some block) ∧
    ∀ (m : ℤ) (b : ℕ),
      (∃ build ∈ block.area.buildList, (build.MODID.toNat : ℤ) = m ∧ build.Contains b) ↔
        ∃ node ∈ nodes, node.Lists m b

/-! ### What is stored of it -/

/-- The fields of a build that the loader merges by. -/
structure Entry where
  buildBegin : UChar
  buildEnd : UChar
  MODID : UChar
  deriving DecidableEq, Repr

/-- The entry in the record of a build. -/
def readEntry (mem : Mem) : Entry := ⟨mem 1, mem 2, mem 3⟩

/-- The `IPID` is there but has no content. -/
def XmlNode.EmptyIPID (node : XmlNode) : Prop :=
  (node.child? "IPID").any fun subNode ↦ subNode.firstContent.isNone

instance (node : XmlNode) : Decidable node.EmptyIPID := inferInstanceAs (Decidable (_ = _))

/-- The entry that a `BuildList` element is stored as. -/
def storedEntry (node : XmlNode) : Entry :=
  let stored key := toInt ((node.number key).getD 0)
  if node.EmptyIPID then
    ⟨(stored "BUILDEND").setWidth 8, (stored "MODID").setWidth 8,
      (stored "MODID" >>> 8).setWidth 8⟩
  else
    ⟨(stored "BUILDBEGIN").setWidth 8, (stored "BUILDEND").setWidth 8,
      (stored "MODID").setWidth 8⟩

/-- The entries of a document, in its order. -/
def storedEntries (nodes : List XmlNode) : List Entry :=
  (nodes.filter fun node ↦ node.name = "BuildList").map storedEntry

/-- The ids of the models of a document. -/
def storedIds (nodes : List XmlNode) : List UChar :=
  (nodes.filter fun node ↦ node.name = "Modol").filterMap storedId

/-- The range of a model runs from the begin of its first entry to the end of that entry plus the
number of its other entries. -/
def Merged (ids : List UChar) (entries : List Entry) (id : UChar) (b : ℕ) : Prop :=
  id ∈ ids ∧ ∃ e rest, entries.filter (fun e ↦ e.MODID = id) = e :: rest ∧
    e.buildBegin.toNat ≤ b ∧ b ≤ (e.buildEnd.toNat + rest.length) % 256

/-! ### The record of a build -/

section Record

variable {node : XmlNode} {size : ℕ} {junk : Junk} {key : String} {s : Fill}

theorem fillKey_of_number (key : String) {n : ℤ} (hnet : isNet key = false)
    (h : node.number key = some n) :
    fillKey node size junk key s =
      .ok ⟨s.mem.storeInt s.contentAddr (toInt n), s.contentAddr + 1, s.keyIndex + 1⟩ := by
  obtain ⟨szKey, hkey, hn⟩ := Option.bind_eq_some_iff.1 h
  obtain ⟨subNode, hchild, hcontent⟩ := Option.bind_eq_some_iff.1 hkey
  rw [fillKey_of_content hnet hchild hcontent, hn, Option.elim_some]

/-- After the `IPID`, the next value goes to the first byte if it is empty, and to the second
otherwise. -/
theorem fillKey_IPID (node : XmlNode) (junk : Junk) (s : Fill) :
    ∃ s', fillKey node 1 junk "IPID" s = .ok s' ∧
      s'.contentAddr = s.contentAddr + if node.EmptyIPID then 0 else 1 := by
  cases hc : node.child? "IPID" with
  | none =>
    have hempty : ¬ node.EmptyIPID := by simp [XmlNode.EmptyIPID, hc]
    exact ⟨_, fillKey_of_missing hc, by rw [if_neg hempty]⟩
  | some subNode =>
    cases hf : subNode.firstContent with
    | none =>
      have hempty : node.EmptyIPID := by simp [XmlNode.EmptyIPID, hc, hf]
      exact ⟨_, fillKey_of_empty hc hf, by rw [if_pos hempty]; rfl⟩
    | some szKey =>
      have hempty : ¬ node.EmptyIPID := by simp [XmlNode.EmptyIPID, hc, hf]
      exact ⟨_, fillKey_of_content (by decide) hc hf, by rw [if_neg hempty]⟩

/-- **What is stored of a `BuildList` element.** -/
theorem fillInfo_buildInfo {lo hi m : ℤ} (junk : Junk) (mem : Mem)
    (hlo : node.number "BUILDBEGIN" = some lo)
    (hhi : node.number "BUILDEND" = some hi) (hm : node.number "MODID" = some m) :
    ∃ r, fillInfo buildInfo node 0 1 junk mem = .ok r ∧ readEntry r.1 = storedEntry node := by
  obtain ⟨s, hs, haddr⟩ := fillKey_IPID node (junk.at 0) ⟨mem, 0, 0⟩
  have hrun : fillKeys node 1 junk 0 buildInfo ⟨mem, 0, 0⟩ =
      .ok ⟨((s.mem.storeInt s.contentAddr (toInt lo)).storeInt (s.contentAddr + 1)
        (toInt hi)).storeInt (s.contentAddr + 2) (toInt m), s.contentAddr + 3, s.keyIndex + 3⟩ := by
    simp only [buildInfo, fillKeys, hs, fillKey_of_number "BUILDBEGIN" (by decide) hlo,
      fillKey_of_number "BUILDEND" (by decide) hhi,
      fillKey_of_number "MODID" (by decide) hm, bind, Except.bind]
  refine ⟨_, by rw [fillInfo, hrun]; rfl, ?_⟩
  simp only [readEntry, storedEntry, hlo, hhi, hm, Option.getD_some]
  by_cases hempty : node.EmptyIPID
  · rw [if_pos hempty] at haddr ⊢
    simp [haddr, Mem.storeInt_of_mem, Mem.storeInt_of_lt]
  · rw [if_neg hempty] at haddr ⊢
    simp [haddr, Mem.storeInt_of_lt]

end Record

/-! ### The lists after the loop -/

section Lists

variable {junk : Junk} {i : ℕ} {nodes : List XmlNode} {s s' : Loader}

/-- **The models after the loop** have the ids that are stored. -/
theorem map_id_modelList (h : loadNodes junk i nodes s = .ok s') :
    s'.modelList.map Model.id = s.modelList.map Model.id ++ storedIds nodes := by
  induction nodes generalizing i s with
  | nil =>
    cases h
    simp [storedIds]
  | cons curNode nodes ih =>
    obtain ⟨t, hnode, hnodes⟩ := loadNodes_cons h
    rw [ih hnodes]
    rcases loadNode_cases hnode with ⟨hn, model, hmodel, rfl⟩ | ⟨hn, -, -, rfl⟩ | ⟨hn, -, rfl⟩ |
      ⟨hn, -, rfl⟩
    · cases model <;> simp [storedIds, hn, ← hmodel]
    · simp [storedIds, hn]
    · simp [storedIds, hn]
    · simp only [List.mem_cons, List.not_mem_nil, or_false, not_or] at hn
      simp [storedIds, hn]

/-- Without `Modol`s the models stay as they are. -/
theorem modelList_of_no_modol (h : loadNodes junk i nodes s = .ok s')
    (hnodes : ∀ node ∈ nodes, node.name ≠ "Modol") : s'.modelList = s.modelList := by
  induction nodes generalizing i s with
  | nil =>
    cases h
    rfl
  | cons curNode nodes ih =>
    obtain ⟨t, hnode, hrest⟩ := loadNodes_cons h
    rw [ih hrest fun node hmem ↦ hnodes node (List.mem_cons_of_mem _ hmem)]
    rcases loadNode_cases hnode with ⟨hn, -⟩ | ⟨-, -, -, rfl⟩ | ⟨-, -, rfl⟩ | ⟨-, -, rfl⟩
    · exact absurd hn (hnodes curNode List.mem_cons_self)
    · rfl
    · rfl
    · rfl

/-- **The builds after the loop** are those of the records of the `BuildList`s, added in order. -/
theorem buildList_loadNodes (h : loadNodes junk i nodes s = .ok s')
    (hfirst : nodes.Pairwise fun node node' ↦ node.name = "BuildList" → node'.name ≠ "Modol")
    (hentries : ∀ node ∈ nodes, node.name = "BuildList" → ∃ lo hi m,
      node.number "BUILDBEGIN" = some lo ∧ node.number "BUILDEND" = some hi ∧
        node.number "MODID" = some m) :
    ∃ mems : List Mem, mems.map readEntry = storedEntries nodes ∧
      s'.buildList = mems.foldl (addBuild s'.modelList) s.buildList := by
  induction nodes generalizing i s with
  | nil =>
    cases h
    exact ⟨[], rfl, rfl⟩
  | cons curNode nodes ih =>
    obtain ⟨t, hnode, hrest⟩ := loadNodes_cons h
    obtain ⟨hcur, hfirst⟩ := List.pairwise_cons.1 hfirst
    obtain ⟨mems, hmems, hbuilds⟩ := ih hrest hfirst
      fun node hmem ↦ hentries node (List.mem_cons_of_mem _ hmem)
    rcases loadNode_cases hnode with ⟨hn, _, -, rfl⟩ | ⟨hn, r, hr, rfl⟩ | ⟨hn, _, rfl⟩ |
      ⟨hn, _, rfl⟩
    · exact ⟨mems, by simp [storedEntries, hn, hmems], hbuilds⟩
    · obtain ⟨lo, hi, m, hlo, hhi, hm⟩ := hentries curNode List.mem_cons_self hn
      obtain ⟨r', hr', hentry⟩ := fillInfo_buildInfo (junk.at i) .zero hlo hhi hm
      rw [hr] at hr'
      cases hr'
      -- no model follows, so the models that this build sees are those at the end
      have hmodels := modelList_of_no_modol hrest fun node hmem ↦ hcur node hmem hn
      refine ⟨r.1 :: mems, ?_, ?_⟩
      · simp [storedEntries, hn, hmems, hentry]
      · rw [List.foldl_cons, hbuilds, hmodels]
    · exact ⟨mems, by simp [storedEntries, hn, hmems], hbuilds⟩
    · simp only [List.mem_cons, List.not_mem_nil, or_false, not_or] at hn
      exact ⟨mems, by simp [storedEntries, hn, hmems], hbuilds⟩

end Lists

/-! ### The merged builds -/

section Merge

variable {modelList : List Model} {buildList : List Build} {mem : Mem} {model : Model}

/-- A record whose model is there is merged into the builds. -/
theorem addBuild_of_model (h : modelList.find? (fun model ↦ mem 3 = model.id) = some model) :
    addBuild modelList buildList mem =
      mergeInto Build.MODID (fun build _ ↦ build.grow) buildList (readBuild mem model) := by
  rw [addBuild, mergeInto_eq, h]
  rfl

/-- A record whose model is missing is dropped. -/
theorem addBuild_of_no_model (h : modelList.find? (fun model ↦ mem 3 = model.id) = none)
    (hbuilds : ∀ id ∈ buildList.map Build.MODID, id ∈ modelList.map Model.id) :
    addBuild modelList buildList mem = buildList := by
  have hnone : buildList.findIdx? (fun existBuild ↦ existBuild.MODID = mem 3) = none := by
    rw [List.findIdx?_eq_none_iff]
    intro build hbuild
    obtain ⟨model, hmodel, hid⟩ := List.mem_map.1 (hbuilds _ (List.mem_map_of_mem hbuild))
    have hne : mem 3 ≠ model.id := by simpa using List.find?_eq_none.1 h model hmodel
    exact decide_eq_false fun heq ↦ hne (heq.symm.trans hid.symm)
  rw [addBuild, hnone, h]

/-- The records that have a model, with it. -/
def builds (modelList : List Model) (mems : List Mem) : List Build :=
  mems.filterMap fun mem ↦
    (modelList.find? fun model ↦ mem 3 = model.id).map (readBuild mem)

theorem MODID_grow (build _ : Build) : build.grow.MODID = build.MODID := rfl

/-- **The loader merges by models** the records that have one. -/
theorem foldl_addBuild (modelList : List Model) (mems : List Mem) :
    mems.foldl (addBuild modelList) [] =
      mergeBy Build.MODID (fun build _ ↦ build.grow) (builds modelList mems) := by
  -- the induction needs any list of builds whose models are there
  suffices h : ∀ buildList : List Build,
      (∀ id ∈ buildList.map Build.MODID, id ∈ modelList.map Model.id) →
        mems.foldl (addBuild modelList) buildList =
          (builds modelList mems).foldl (mergeInto Build.MODID fun build _ ↦ build.grow) buildList
    from h [] (by simp)
  induction mems with
  | nil => exact fun _ _ ↦ rfl
  | cons mem mems ih =>
    intro buildList hbuilds
    rw [List.foldl_cons]
    cases hmodel : modelList.find? fun model ↦ mem 3 = model.id with
    | none =>
      rw [addBuild_of_no_model hmodel hbuilds, ih buildList hbuilds]
      simp [builds, hmodel]
    | some model =>
      have hmem : model ∈ modelList := List.mem_of_find?_eq_some hmodel
      have hid : mem 3 = model.id := by simpa using List.find?_some hmodel
      rw [addBuild_of_model hmodel, ih]
      · simp [builds, hmodel]
      · rw [map_mergeInto MODID_grow]
        intro id hin
        split_ifs at hin
        · exact hbuilds id hin
        · rcases List.mem_append.1 hin with hin | hin
          · exact hbuilds id hin
          · rw [List.mem_singleton.1 hin]
            exact List.mem_map.2 ⟨model, hmem, hid.symm⟩

/-- The records of a model, in their order. -/
theorem filter_builds (modelList : List Model) (mems : List Mem) (id : UChar) :
    (builds modelList mems).filter (fun build ↦ build.MODID = id) =
      match modelList.find? fun model ↦ id = model.id with
      | some model => (mems.filter fun mem ↦ mem 3 = id).map fun mem ↦ readBuild mem model
      | none => [] := by
  induction mems with
  | nil => cases modelList.find? fun model ↦ id = model.id <;> rfl
  | cons mem mems ih =>
    rw [builds, List.filterMap_cons]
    by_cases hid : mem 3 = id
    · subst hid
      cases hmodel : modelList.find? fun model ↦ mem 3 = model.id with
      | none =>
        rw [hmodel] at ih
        exact ih
      | some model =>
        rw [hmodel] at ih
        rw [Option.map_some, List.filter_cons_of_pos (by simp [readBuild]),
          List.filter_cons_of_pos (by simp)]
        exact congrArg (readBuild mem model :: ·) ih
    · rw [List.filter_cons_of_neg (by simpa using hid), ← ih]
      cases modelList.find? fun model ↦ mem 3 = model.id with
      | none => rfl
      | some model =>
        exact List.filter_cons_of_neg fun heq ↦ hid (of_decide_eq_true heq)

/-- A build after growing once for each element of a list. -/
theorem foldl_grow {β : Type} (build : Build) (l : List β) :
    l.foldl (fun build _ ↦ build.grow) build =
      { build with buildEnd := build.buildEnd + BitVec.ofNat 8 l.length } := by
  induction l generalizing build with
  | nil => simp
  | cons a l ih =>
    rw [List.foldl_cons, ih, Build.grow, List.length_cons, Nat.add_comm l.length, BitVec.ofNat_add,
      ← BitVec.add_assoc]
    rfl

/-- **What the loader keeps for a model.** -/
theorem exists_contains_iff (modelList : List Model) (mems : List Mem) (id : UChar) (b : ℕ) :
    (∃ build ∈ mems.foldl (addBuild modelList) [], build.MODID = id ∧ build.Contains b) ↔
      Merged (modelList.map Model.id) (mems.map readEntry) id b := by
  rw [foldl_addBuild, exists_mem_key_iff_of_nodup (nodup_map_mergeBy MODID_grow _),
    find?_mergeBy MODID_grow, filter_builds]
  have hentries : (mems.map readEntry).filter (fun e ↦ e.MODID = id) =
      (mems.filter fun mem ↦ mem 3 = id).map readEntry := by
    rw [List.filter_map]
    rfl
  rw [Merged, hentries]
  cases hmodel : modelList.find? fun model ↦ id = model.id with
  | none =>
    have hid : id ∉ modelList.map Model.id := fun hin ↦ by
      obtain ⟨model, hmem, hid⟩ := List.mem_map.1 hin
      exact absurd hid.symm (by simpa using List.find?_eq_none.1 hmodel model hmem)
    simp [hid]
  | some model =>
    have hid : id ∈ modelList.map Model.id := List.mem_map.2
      ⟨model, List.mem_of_find?_eq_some hmodel,
        (by simpa using List.find?_some hmodel : id = model.id).symm⟩
    cases hmems : mems.filter fun mem ↦ mem 3 = id with
    | nil => simp
    | cons mem rest =>
      simp [hid, foldl_grow, readBuild, readEntry, Build.Contains]

end Merge

/-! ### The builds and their models -/

/-- The builds have different numbers, and each has a model of the list with its number. -/
structure Loader.Matched (s : Loader) : Prop where
  nodup : (s.buildList.map Build.MODID).Nodup
  model : ∀ build ∈ s.buildList, build.model ∈ s.modelList ∧ build.model.id = build.MODID

section Matched

variable {modelList : List Model} {buildList : List Build} {mem : Mem} {build : Build}

/-- A record whose `MODID` is there is merged into the build that has it. -/
theorem addBuild_of_exists (hnodup : (buildList.map Build.MODID).Nodup)
    (h : buildList.find? (fun build ↦ build.MODID = mem 3) = some build) :
    addBuild modelList buildList mem =
      buildList.map fun build ↦ if build.MODID = mem 3 then build.grow else build := by
  rw [List.find?_eq_bind_findIdx?_getElem?] at h
  obtain ⟨i, hi, -⟩ := Option.bind_eq_some_iff.1 h
  rw [addBuild, hi]
  exact modify_findIdx?_of_nodup hnodup hi Build.grow

/-- A record whose `MODID` is new is added if there is a model for it. -/
theorem addBuild_of_not_exists
    (h : buildList.find? (fun build ↦ build.MODID = mem 3) = none) :
    addBuild modelList buildList mem = buildList ++
      ((modelList.find? fun model ↦ model.id = mem 3).map (readBuild mem)).toList := by
  have hnone : buildList.findIdx? (fun build ↦ build.MODID = mem 3) = none := by
    rw [List.findIdx?_eq_none_iff]
    intro build hbuild
    simpa using List.find?_eq_none.1 h build hbuild
  have hmodel : (modelList.find? fun model ↦ mem 3 = model.id) =
      modelList.find? fun model ↦ model.id = mem 3 := by
    simp only [eq_comm]
  rw [addBuild, hnone, hmodel]
  cases modelList.find? fun model ↦ model.id = mem 3 <;> simp

/-- Merging keeps the numbers and the models. -/
theorem matched_addBuild {mem₀ : Mem} {netItemIndex : ℕ}
    (h : Loader.Matched ⟨mem₀, buildList, modelList, netItemIndex⟩) (mem : Mem) :
    Loader.Matched ⟨mem₀, addBuild modelList buildList mem, modelList, netItemIndex⟩ := by
  obtain ⟨hnodup, hmodel⟩ := h
  cases hfind : buildList.find? fun build ↦ build.MODID = mem 3 with
  | some build =>
    have hgrow (build : Build) : (if build.MODID = mem 3 then build.grow else build).MODID =
        build.MODID ∧ (if build.MODID = mem 3 then build.grow else build).model = build.model := by
      split_ifs <;> exact ⟨rfl, rfl⟩
    rw [addBuild_of_exists hnodup hfind]
    constructor
    · rw [List.map_map]
      exact (List.map_congr_left fun build _ ↦ (hgrow build).1) ▸ hnodup
    · intro build' hbuild'
      obtain ⟨build, hbuild, rfl⟩ := List.mem_map.1 hbuild'
      rw [(hgrow build).1, (hgrow build).2]
      exact hmodel build hbuild
  | none =>
    rw [addBuild_of_not_exists hfind]
    cases hmem : modelList.find? fun model ↦ model.id = mem 3 with
    | none =>
      rw [Option.map_none, Option.toList_none, List.append_nil]
      exact ⟨hnodup, hmodel⟩
    | some model =>
      have hid : model.id = mem 3 := by simpa using List.find?_some hmem
      have hnew : mem 3 ∉ buildList.map Build.MODID := by
        intro hin
        obtain ⟨build, hbuild, hn⟩ := List.mem_map.1 hin
        exact absurd hn (by simpa using List.find?_eq_none.1 hfind build hbuild)
      constructor
      · rw [List.map_append, Option.map_some, Option.toList_some, List.map_singleton,
          ← List.concat_eq_append]
        exact hnodup.concat hnew
      · intro build hbuild
        rcases List.mem_append.1 hbuild with hold | hlast
        · exact hmodel build hold
        · cases List.mem_singleton.1 hlast
          exact ⟨List.mem_of_find?_eq_some hmem, hid⟩

/-- **Every element** keeps the builds matched. -/
theorem Loader.Matched.loadNode {junk : Junk} {curNode : XmlNode} {s s' : Loader}
    (h : s.Matched) (hnode : loadNode junk curNode s = .ok s') : s'.Matched := by
  rcases loadNode_cases hnode with ⟨-, model, -, rfl⟩ | ⟨-, r, -, rfl⟩ | ⟨-, mem, rfl⟩ |
    ⟨-, mem, rfl⟩
  · exact ⟨h.nodup, fun build hbuild ↦
      ⟨List.mem_append_left _ (h.model build hbuild).1, (h.model build hbuild).2⟩⟩
  · exact matched_addBuild h r.1
  · exact ⟨h.nodup, h.model⟩
  · exact ⟨h.nodup, h.model⟩

/-- There are at most 256 builds. -/
theorem Loader.Matched.length_le {s : Loader} (h : s.Matched) : s.buildList.length ≤ 256 := by
  have hnodup : ((s.buildList.map Build.MODID).map BitVec.toNat).Nodup :=
    h.nodup.map fun _ _ ↦ BitVec.eq_of_toNat_eq
  have hrange : (s.buildList.map Build.MODID).map BitVec.toNat ⊆ List.range 256 := by
    intro n hn
    obtain ⟨id, -, rfl⟩ := List.mem_map.1 hn
    exact List.mem_range.2 id.isLt
  simpa using (hnodup.subperm hrange).length_le

end Matched

/-! ### The buildings that are kept -/

/-- The document can be loaded, and for every model the numbers that its elements list are those
from the begin of its first entry to the end of that entry plus the number of the others. -/
structure MergesExactly (nodes : List XmlNode) : Prop where
  loadable : ∀ node ∈ nodes, Loadable node
  room : netItems nodes ≤ 3
  merged : ∀ (m : ℤ) (b : ℕ), (∃ node ∈ nodes, node.Lists m b) ↔
    ∃ id : UChar, (id.toNat : ℤ) = m ∧ Merged (storedIds nodes) (storedEntries nodes) id b

/-- **The block that is loaded** from a well-formed document has the merged ranges. -/
theorem exists_contains_getAreaInfo {junk : Junk} {nodes : List XmlNode} (h : WellFormed nodes)
    {block : AreaBlock}
    (hblock : getAreaInfo junk (some (.element "NETCFG" nodes)) = .ok (some block)) (id : UChar)
    (b : ℕ) :
    (∃ build ∈ block.area.buildList, build.MODID = id ∧ build.Contains b) ↔
      Merged (storedIds nodes) (storedEntries nodes) id b := by
  have hload : (loadNodes junk 0 nodes .start).map (fun s ↦ some (AreaBlock.mk s.mem s.buildList)) =
      .ok (some block) := by
    rw [← hblock]
    cases hrun : loadNodes junk 0 nodes .start <;>
      simp [getAreaInfo, XmlNode.name, XmlNode.children, hrun, bind, Except.bind, Except.map, pure,
        Except.pure]
  obtain ⟨s, hs, hsome⟩ := map_eq_ok hload
  cases hsome
  obtain ⟨mems, hmems, hbuilds⟩ := buildList_loadNodes hs h.models_first fun node hnode hn ↦ by
    obtain ⟨lo, hi, m, hlo, hhi, hm, -⟩ := h.entries node hnode hn
    exact ⟨lo, hi, m, hlo, hhi, hm⟩
  have hids := map_id_modelList hs
  show (∃ build ∈ s.buildList, _) ↔ _
  rw [hbuilds, ← hmems]
  show (∃ build ∈ mems.foldl (addBuild s.modelList) [], _) ↔ _
  rw [exists_contains_iff, hids]
  rfl

theorem getAreaInfo_isOk_iff {junk : Junk} {nodes : List XmlNode} :
    (∃ block, getAreaInfo junk (some (.element "NETCFG" nodes)) = .ok (some block)) ↔
      (∀ node ∈ nodes, Loadable node) ∧ netItems nodes ≤ 3 := by
  have hrun := loadNodes_isOk_iff junk 0 nodes (s := .start) (by decide)
  rw [show Loader.start.netItemIndex + netItems nodes = netItems nodes from Nat.zero_add _] at hrun
  rw [← hrun]
  cases hload : loadNodes junk 0 nodes .start <;>
    simp [getAreaInfo, XmlNode.name, XmlNode.children, hload, bind, Except.bind, pure, Except.pure]

/-- **Loading keeps exactly the listed buildings** if and only if the document merges exactly. -/
theorem keepsBuildings_iff (junk : Junk) {nodes : List XmlNode} (h : WellFormed nodes) :
    KeepsBuildings junk nodes ↔ MergesExactly nodes := by
  have hranges {block : AreaBlock}
      (hblock : getAreaInfo junk (some (.element "NETCFG" nodes)) = .ok (some block)) (m : ℤ)
      (b : ℕ) : (∃ build ∈ block.area.buildList, (build.MODID.toNat : ℤ) = m ∧ build.Contains b) ↔
        ∃ id : UChar, (id.toNat : ℤ) = m ∧ Merged (storedIds nodes) (storedEntries nodes) id b := by
    simp only [← exists_contains_getAreaInfo h hblock]
    constructor
    · rintro ⟨build, hmem, hm, hb⟩
      exact ⟨build.MODID, hm, build, hmem, rfl, hb⟩
    · rintro ⟨_, hm, build, hmem, rfl, hb⟩
      exact ⟨build, hmem, hm, hb⟩
  constructor
  · rintro ⟨block, hblock, hkeeps⟩
    obtain ⟨hloadable, hroom⟩ := getAreaInfo_isOk_iff.1 ⟨block, hblock⟩
    exact ⟨hloadable, hroom, fun m b ↦ (hkeeps m b).symm.trans (hranges hblock m b)⟩
  · intro hmerges
    obtain ⟨block, hblock⟩ := getAreaInfo_isOk_iff.2 ⟨hmerges.loadable, hmerges.room⟩
    exact ⟨block, hblock, fun m b ↦ (hranges hblock m b).trans (hmerges.merged m b).symm⟩

/-! ### Samples -/

/-- A `Modol` with one cell. -/
def XmlNode.modol (id : String) : XmlNode :=
  .element "Modol" [leaf "ID" id, .element "Item" [leaf "CellBegin" "1", leaf "CellEnd" "1"]]

/-- A `BuildList` element. -/
def XmlNode.buildList (buildBegin buildEnd modId : String) : XmlNode :=
  .element "BuildList" [leaf "IPID" "1", leaf "BUILDBEGIN" buildBegin, leaf "BUILDEND" buildEnd,
    leaf "MODID" modId]

/-- The numbers of an element determine what it lists. -/
theorem XmlNode.lists_iff (node : XmlNode) (lo hi m : ℤ) (hn : node.name = "BuildList")
    (hlo : node.number "BUILDBEGIN" = some lo) (hhi : node.number "BUILDEND" = some hi)
    (hm : node.number "MODID" = some m) (m' : ℤ) (b : ℕ) :
    node.Lists m' b ↔ m = m' ∧ lo ≤ b ∧ b ≤ hi := by
  simp [XmlNode.Lists, hn, hlo, hhi, hm]

theorem XmlNode.exists_lists_cons {node : XmlNode} {nodes : List XmlNode} {m : ℤ} {b : ℕ} :
    (∃ node' ∈ node :: nodes, node'.Lists m b) ↔
      node.Lists m b ∨ ∃ node' ∈ nodes, node'.Lists m b :=
  List.exists_mem_cons_iff ..

/-- A node that is not a `BuildList` lists nothing. -/
theorem XmlNode.not_lists {node : XmlNode} (hn : node.name ≠ "BuildList") (m : ℤ) (b : ℕ) :
    ¬ node.Lists m b := fun h ↦ hn h.1

/-- Buildings 1 and 2, and then building 3, with the model 1, and building 7 with the model 2. -/
def sampleNodes : List XmlNode :=
  [.modol "1", .modol "2", .buildList "1" "2" "1", .buildList "7" "7" "2", .buildList "3" "3" "1"]

theorem sampleNodes_wellFormed : WellFormed sampleNodes where
  models_first := by decide
  entries := by
    intro node hnode hn
    simp only [sampleNodes, List.mem_cons, List.not_mem_nil, or_false] at hnode
    rcases hnode with rfl | rfl | rfl | rfl | rfl
    · exact absurd hn (by decide)
    · exact absurd hn (by decide)
    · exact ⟨1, 2, 1, rfl, rfl, rfl, by decide, by decide, by decide, .modol "1",
        by simp [sampleNodes], rfl, rfl⟩
    · exact ⟨7, 7, 2, rfl, rfl, rfl, by decide, by decide, by decide, .modol "2",
        by simp [sampleNodes], rfl, rfl⟩
    · exact ⟨3, 3, 1, rfl, rfl, rfl, by decide, by decide, by decide, .modol "1",
        by simp [sampleNodes], rfl, rfl⟩

theorem sampleNodes_lists (m : ℤ) (b : ℕ) : (∃ node ∈ sampleNodes, node.Lists m b) ↔
    (1 = m ∧ 1 ≤ b ∧ b ≤ 3) ∨ (2 = m ∧ b = 7) := by
  have hmodol (id : String) : ¬ (XmlNode.modol id).Lists m b :=
    XmlNode.not_lists (by change "Modol" ≠ "BuildList"; decide) m b
  simp only [sampleNodes, XmlNode.exists_lists_cons, hmodol, false_or, List.not_mem_nil,
    false_and, exists_false, or_false,
    XmlNode.lists_iff (.buildList "1" "2" "1") 1 2 1 rfl rfl rfl rfl,
    XmlNode.lists_iff (.buildList "7" "7" "2") 7 7 2 rfl rfl rfl rfl,
    XmlNode.lists_iff (.buildList "3" "3" "1") 3 3 1 rfl rfl rfl rfl]
  omega

theorem sampleNodes_mergesExactly : MergesExactly sampleNodes where
  loadable := by
    intro node hnode
    simp only [sampleNodes, List.mem_cons, List.not_mem_nil, or_false] at hnode
    rcases hnode with rfl | rfl | rfl | rfl | rfl <;>
      simp [Loadable, XmlNode.modol, XmlNode.buildList, XmlNode.leaf, XmlNode.name,
        XmlNode.children, XmlNode.xmlNodeGetContent]
  room := by decide
  merged m b := by
    have hids : storedIds sampleNodes = [1#8, 2#8] := by decide
    have hentries : storedEntries sampleNodes =
        [⟨1#8, 2#8, 1#8⟩, ⟨7#8, 7#8, 2#8⟩, ⟨3#8, 3#8, 1#8⟩] := by decide
    rw [sampleNodes_lists, hids, hentries]
    constructor
    · rintro (⟨rfl, hb⟩ | ⟨rfl, rfl⟩)
      · exact ⟨1#8, rfl, by decide, ⟨1#8, 2#8, 1#8⟩, [⟨3#8, 3#8, 1#8⟩], rfl, hb⟩
      · exact ⟨2#8, rfl, by decide, ⟨7#8, 7#8, 2#8⟩, [], rfl, by decide⟩
    · rintro ⟨id, rfl, hid, e, rest, hfilter, hb⟩
      simp only [List.mem_cons, List.not_mem_nil, or_false] at hid
      rcases hid with rfl | rfl
      · cases hfilter
        exact Or.inl ⟨rfl, hb⟩
      · cases hfilter
        exact Or.inr ⟨rfl, Nat.le_antisymm hb.2 hb.1⟩

theorem keepsBuildings_sampleNodes : KeepsBuildings .zero sampleNodes :=
  (keepsBuildings_iff _ sampleNodes_wellFormed).2 sampleNodes_mergesExactly

/-- Buildings 1 and 2, and then buildings 5 and 6, with the model 1: the loader keeps 1 to 3. -/
def gapNodes : List XmlNode :=
  [.modol "1", .buildList "1" "2" "1", .buildList "5" "6" "1"]

theorem gapNodes_wellFormed : WellFormed gapNodes where
  models_first := by decide
  entries := by
    intro node hnode hn
    simp only [gapNodes, List.mem_cons, List.not_mem_nil, or_false] at hnode
    rcases hnode with rfl | rfl | rfl
    · exact absurd hn (by decide)
    · exact ⟨1, 2, 1, rfl, rfl, rfl, by decide, by decide, by decide, .modol "1",
        by simp [gapNodes], rfl, rfl⟩
    · exact ⟨5, 6, 1, rfl, rfl, rfl, by decide, by decide, by decide, .modol "1",
        by simp [gapNodes], rfl, rfl⟩

/-- Building 5 is lost. -/
theorem not_keepsBuildings_gapNodes :
    WellFormed gapNodes ∧ ∀ junk, ¬ KeepsBuildings junk gapNodes := by
  refine ⟨gapNodes_wellFormed, fun junk h ↦ ?_⟩
  obtain ⟨block, hblock, hkeeps⟩ := h
  have hlists : (XmlNode.buildList "5" "6" "1").Lists 1 5 :=
    (XmlNode.lists_iff _ 5 6 1 rfl rfl rfl rfl 1 5).2 (by decide)
  obtain ⟨build, hmem, hm, hb⟩ := (hkeeps 1 5).2 ⟨_, by simp [gapNodes], hlists⟩
  have hid : build.MODID = 1#8 := BitVec.eq_of_toNat_eq (by exact_mod_cast hm)
  obtain ⟨-, e, rest, hfilter, -, hle⟩ :=
    (exists_contains_getAreaInfo gapNodes_wellFormed hblock 1#8 5).1 ⟨build, hmem, hid, hb⟩
  have hentries : storedEntries gapNodes = [⟨1#8, 2#8, 1#8⟩, ⟨5#8, 6#8, 1#8⟩] := by decide
  rw [hentries] at hfilter
  cases hfilter
  exact absurd hle (by decide)

end DoorIntercom
