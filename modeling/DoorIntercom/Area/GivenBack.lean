import DoorIntercom.Area.FreeArea

/-!
# The memory that is given back

`getAreaInfo` allocates a model for every `Modol` that has children, with a list and its cells, a
build for every `BuildList` element, and the lists of both. `freeArea` follows the builds only: a
model that no build points to stays allocated, with its list and its cells, and so does the build of
an element that finds no model, which is in no list.

So everything is given back if and only if every `BuildList` element comes behind a model with its
number, and every model has a number of its own and a build (`givesBack_iff`). The document must be
one that can be loaded, on `arm64-v8a`.

Here objects are counted: lists, cells, models and builds, without the block of the area, which is
freed at the end. What one function does to their numbers does not depend on what the memory holds,
except where a build is searched for. `Loader.Accounted` is the ledger of loading, and
`Freeing.Balances` that of freeing.
-/

namespace DoorIntercom

open FallibleRun

namespace Linked

/-! ### What a document asks for -/

/-- The number of the model in the record of a `BuildList` element. -/
def storedMODID (junk : Junk) (node : XmlNode) : UChar :=
  match fillInfo buildInfo node 0 1 junk .zero with
  | .ok r => r.1 3
  | .error _ => 0

/-- The numbers of the models before a `BuildList` element, with its own. -/
def buildEntry (junk : Junk) (ids : List UChar) (node : XmlNode) : List (List UChar × UChar) :=
  if node.name = "BuildList" then [(ids, storedMODID junk node)] else []

/-- The `BuildList` elements among the nodes from the `i`-th on. -/
def buildEntries (junk : Junk) : ℕ → List UChar → List XmlNode → List (List UChar × UChar)
  | _, _, [] => []
  | i, ids, node :: rest =>
    buildEntry (junk.at i) ids node ++ buildEntries junk (i + 1) (ids ++ storedIds [node]) rest

/-- Every `BuildList` element comes behind a model with its number, and every model has a number of
its own, which some element names. -/
structure UsesAll (junk : Junk) (nodes : List XmlNode) : Prop where
  found : ∀ p ∈ buildEntries junk 0 [] nodes, p.2 ∈ p.1
  nodup : (storedIds nodes).Nodup
  used : ∀ id ∈ storedIds nodes, ∃ p ∈ buildEntries junk 0 [] nodes, p.2 = id

/-- Nothing is allocated. -/
structure Heap.IsEmpty (heap : Heap) : Prop where
  lists : ∀ p, heap.lists.load p = none
  cells : ∀ p, heap.cells.load p = none
  models : ∀ p, heap.models.load p = none
  builds : ∀ p, heap.builds.load p = none

/-- The document is loaded, and freeing the area leaves nothing allocated. -/
def GivesBack (junk : Junk) (nodes : List XmlNode) : Prop :=
  ∃ area heap s, getAreaInfo junk (some (.element "NETCFG" nodes)) = .ok (some (area, heap)) ∧
    freeArea area heap = .ok s ∧ s.heap.IsEmpty

/-! ### The numbers of objects while loading -/

section Sizes

variable {heap heap' : Heap} {list node i : ℕ} {junk : Junk} {nodes : List XmlNode}
  {curNode : XmlNode}

/-- Adding a node allocates nothing. -/
theorem appendNode_sizes (h : heap.appendNode list node = .ok heap') :
    ∃ lists, heap' = { heap with lists } ∧ lists.size = heap.lists.size := by
  obtain ⟨tlist, -, h⟩ := bind_eq_ok.1 h
  split_ifs at h
  · obtain ⟨tlist', -, h⟩ := bind_eq_ok.1 h
    obtain ⟨lists, hlists, h⟩ := bind_eq_ok.1 h
    cases h
    exact ⟨lists, rfl, Region.size_of_store (orDangling_eq_ok.1 hlists)⟩

/-- **The cells of a model.** -/
theorem loadCells_sizes (h : loadCells junk list i nodes heap = .ok heap') :
    heap'.cells.size = heap.cells.size + items nodes ∧ heap'.lists.size = heap.lists.size ∧
      heap'.models = heap.models ∧ heap'.builds = heap.builds := by
  induction nodes generalizing i heap with
  | nil =>
    cases h
    exact ⟨rfl, rfl, rfl, rfl⟩
  | cons subNode rest ih =>
    by_cases hitem : subNode.name = "Item"
    · obtain ⟨r, hr⟩ := fillInfo_isOk (by decide : ∀ key ∈ cellInfo, isNet key = false)
        subNode 0 1 (junk.at i) .zero
      rw [loadCells_cons hitem hr] at h
      obtain ⟨heap₁, happend, hrest⟩ := bind_eq_ok.1 h
      obtain ⟨lists, rfl, hlists⟩ := appendNode_sizes happend
      obtain ⟨hcells', hlists', hmodels', hbuilds'⟩ := ih hrest
      refine ⟨?_, hlists'.trans hlists, hmodels', hbuilds'⟩
      rw [hcells', Region.size_malloc, items, items, List.countP_cons_of_pos (by simpa using hitem)]
      omega
    · rw [loadCells, if_neg hitem] at h
      rw [items, List.countP_cons_of_neg (by simpa using hitem)]
      exact ih h

/-- **A model.** -/
theorem loadModel_sizes (h : loadModel junk curNode list heap = .ok heap') :
    heap'.models.size = heap.models.size + (storedId curNode).toList.length ∧
      heap'.lists.size = heap.lists.size + (storedId curNode).toList.length ∧
      heap'.cells.size = heap.cells.size + items curNode.children ∧
      heap'.builds = heap.builds := by
  cases hchildren : curNode.children with
  | nil =>
    have hstored : storedId curNode = none := by simp [storedId, hchildren]
    rw [loadModel, hchildren] at h
    obtain ⟨models, hmodels, h⟩ := bind_eq_ok.1 h
    cases h
    have hsize := Region.size_of_free (orDangling_eq_ok.1 hmodels)
    rw [Region.size_malloc] at hsize
    rw [hstored]
    exact ⟨Nat.succ.inj hsize, rfl, rfl, rfl⟩
  | cons subNode rest =>
    have hstored : (storedId curNode).toList.length = 1 := by simp [storedId, hchildren]
    cases hid : loadModelId subNode with
    | error fault =>
      rw [(loadModel_error hchildren hid junk list heap).1] at h
      cases h
    | ok id =>
      rw [loadModel_cons hchildren hid] at h
      obtain ⟨heap₁, hcells, happend⟩ := bind_eq_ok.1 h
      obtain ⟨lists, rfl, hlists⟩ := appendNode_sizes happend
      obtain ⟨hcells', hlists', hmodels', hbuilds'⟩ := loadCells_sizes hcells
      rw [hstored]
      refine ⟨?_, ?_, hcells', hbuilds'⟩
      · exact (congrArg Region.size hmodels').trans (Region.size_malloc _ _)
      · exact (hlists.trans hlists').trans (Region.size_malloc _ _)

/-- As many cells as `Item`s. -/
theorem length_loadCells {cellList : List Cell}
    (h : DoorIntercom.loadCells junk i nodes = .ok cellList) : cellList.length = items nodes := by
  induction nodes generalizing i cellList with
  | nil =>
    cases h
    rfl
  | cons subNode rest ih =>
    by_cases hitem : subNode.name = "Item"
    · obtain ⟨r, hr⟩ := fillInfo_isOk (by decide : ∀ key ∈ cellInfo, isNet key = false)
        subNode 0 1 (junk.at i) .zero
      rw [map_loadCells hitem hr] at h
      obtain ⟨cellList', hrest, rfl⟩ := map_eq_ok h
      rw [List.length_cons, ih hrest, items, items, List.countP_cons_of_pos (by simpa using hitem)]
    · rw [DoorIntercom.loadCells, if_neg hitem] at h
      rw [items, List.countP_cons_of_neg (by simpa using hitem)]
      exact ih h

/-- A model has as many cells as its element has `Item`s. -/
theorem length_cellList {model : Option Model}
    (h : DoorIntercom.loadModel junk curNode = .ok model) :
    (model.toList.map fun m ↦ m.cellList.length).sum = items curNode.children := by
  cases hchildren : curNode.children with
  | nil =>
    rw [DoorIntercom.loadModel, hchildren] at h
    cases h
    rfl
  | cons subNode rest =>
    cases hid : loadModelId subNode with
    | error fault =>
      rw [(loadModel_error hchildren hid junk 0 ⟨.empty, .empty, .empty, .empty⟩).2] at h
      cases h
    | ok id =>
      rw [value_loadModel_cons hchildren hid] at h
      obtain ⟨cellList, hcells, h⟩ := bind_eq_ok.1 h
      cases h
      simpa using length_loadCells hcells

end Sizes

/-! ### The ledger of the loader -/

/-- What is allocated while loading: the objects of the lists, the two lists themselves, and the
builds of the elements that found no model. -/
structure Loader.Accounted (l : Loader) (s : DoorIntercom.Loader) (dropped : ℕ) : Prop where
  lists : l.heap.lists.size = s.modelList.length + 2
  cells : l.heap.cells.size = (s.modelList.map fun model ↦ model.cellList.length).sum
  models : l.heap.models.size = s.modelList.length
  builds : l.heap.builds.size = s.buildList.length + dropped

/-- The number of elements that find no model. -/
def dropped (entries : List (List UChar × UChar)) : ℕ := entries.countP fun p ↦ p.2 ∉ p.1

section Ledger

variable {l l' : Loader} {s s' : DoorIntercom.Loader} {ms : List ModelShape}
  {bs : List BuildShape} {mem : Mem} {junk : Junk} {curNode : XmlNode} {heap' : Heap} {n : ℕ}

theorem dropped_of_mem {ids : List UChar} {MODID : UChar} (h : MODID ∈ ids) :
    dropped [(ids, MODID)] = 0 := by
  rw [dropped, List.countP_cons_of_neg (by simpa using h), List.countP_nil]

theorem dropped_of_notMem {ids : List UChar} {MODID : UChar} (h : MODID ∉ ids) :
    dropped [(ids, MODID)] = 1 := by
  rw [dropped, List.countP_cons_of_pos (by simpa using h), List.countP_nil]

/-- The build of the element is freed again. -/
theorem Heap.size_mergeBuild {heap : Heap} {b : BuildShape}
    (h : heap.builds.load b.build = some b.record) :
    (heap.mergeBuild mem b).builds.size = heap.builds.size := by
  have hstore := Region.store_of_load (Region.load_malloc_of_load h (readBuild mem))
    { b.record with buildEnd := b.value.buildEnd + 1 }
  have hload := (Region.load_set_of_ne (Region.ne_malloc_of_load h (readBuild mem)).symm
    (some { b.record with buildEnd := b.value.buildEnd + 1 })).trans
      (Region.load_malloc_self (r := heap.builds) (readBuild mem))
  have hsize := Region.size_of_free (Region.free_of_load hload)
  rw [Region.size_of_store hstore, Region.size_malloc] at hsize
  exact Nat.succ.inj hsize

theorem Heap.size_mallocBuild (heap : Heap) (mem : Mem) (model : Option ℕ) :
    (heap.mallocBuild mem model).builds.size = heap.builds.size + 1 := by
  have hstore := Region.store_of_load
    (Region.load_malloc_self (r := heap.builds) (readBuild mem))
    { readBuild mem with model := model }
  exact (Region.size_of_store hstore).trans (Region.size_malloc _ _)

/-- **A `BuildList` element** leaves one build more if it is added, and also if it finds no model.
-/
theorem Loader.Holds.addBuild_sizes (h : l.Holds s ms bs) (hmatched : s.Matched)
    (hok : Linked.addBuild l.buildList l.modelList mem l.heap = .ok heap') :
    heap'.lists.size = l.heap.lists.size ∧ heap'.cells = l.heap.cells ∧
      heap'.models = l.heap.models ∧
      heap'.builds.size + s.buildList.length =
        l.heap.builds.size + (DoorIntercom.addBuild s.modelList s.buildList mem).length +
          dropped [(s.modelList.map Model.id, mem 3)] := by
  have hbuild := h.find?_buildList (mem 3)
  have hmodel := h.find?_modelList (mem 3)
  cases hfind : bs.find? fun b ↦ b.value.MODID = mem 3 with
  | some b =>
    have hb := h.builds b (List.mem_of_find?_eq_some hfind)
    have hMODID : b.value.MODID = mem 3 := by simpa using List.find?_some hfind
    rw [hfind, Option.map_some] at hbuild
    -- the model of the build is there
    obtain ⟨hmem, hid⟩ := hmatched.model _ (List.mem_of_find?_eq_some hbuild)
    have hfound : mem 3 ∈ s.modelList.map Model.id :=
      List.mem_map.2 ⟨_, hmem, hid.trans hMODID⟩
    rw [h.addBuild_of_exists hfind] at hok
    cases hok
    refine ⟨rfl, rfl, rfl, ?_⟩
    rw [DoorIntercom.addBuild_of_exists hmatched.nodup hbuild, List.length_map,
      Heap.size_mergeBuild hb, dropped_of_mem hfound]
    rfl
  | none =>
    rw [hfind, Option.map_none] at hbuild
    rw [addBuild_of_not_exists hbuild]
    cases hsome : ms.find? fun m ↦ m.value.id = mem 3 with
    | some m =>
      rw [hsome, Option.map_some] at hmodel
      have hfound : mem 3 ∈ s.modelList.map Model.id :=
        List.mem_map.2 ⟨_, List.mem_of_find?_eq_some hmodel, by simpa using List.find?_some hmodel⟩
      rw [h.addBuild_of_model hfind hsome] at hok
      obtain ⟨lists, rfl, hlists⟩ := appendNode_sizes hok
      have hsize := l.heap.size_mallocBuild mem (some m.model)
      refine ⟨hlists, rfl, rfl, ?_⟩
      rw [hmodel, Option.map_some, Option.toList_some, List.length_append, List.length_singleton,
        dropped_of_mem hfound]
      dsimp only
      omega
    | none =>
      rw [hsome, Option.map_none] at hmodel
      have hfound : mem 3 ∉ s.modelList.map Model.id := by
        intro hin
        obtain ⟨model, hmem, hid⟩ := List.mem_map.1 hin
        exact absurd hid (by simpa using List.find?_eq_none.1 hmodel model hmem)
      rw [h.addBuild_of_no_model hfind hsome] at hok
      cases hok
      refine ⟨rfl, rfl, rfl, ?_⟩
      rw [hmodel, Option.map_none, Option.toList_none, List.append_nil, dropped_of_notMem hfound,
        Region.size_malloc]
      omega

/-- **One element.** -/
theorem Loader.Accounted.loadNode (hacc : l.Accounted s n) (h : l.Holds s ms bs)
    (hmatched : s.Matched) (hl : Linked.loadNode junk curNode l = .ok l')
    (hs : DoorIntercom.loadNode junk curNode s = .ok s') :
    l'.Accounted s' (n + dropped (buildEntry junk (s.modelList.map Model.id) curNode)) := by
  by_cases hmodol : curNode.name = "Modol"
  · have hentry : buildEntry junk (s.modelList.map Model.id) curNode = [] := by
      rw [buildEntry, if_neg (by rw [hmodol]; decide)]
    rw [loadNode_modol hmodol] at hl
    rw [DoorIntercom.loadNode_modol hmodol] at hs
    obtain ⟨heap', hheap, rfl⟩ := map_eq_ok hl
    obtain ⟨model, hmodel, rfl⟩ := map_eq_ok hs
    obtain ⟨hmodels, hlists, hcells, hbuilds⟩ := loadModel_sizes hheap
    have hlength : (storedId curNode).toList.length = model.toList.length := by
      rw [← map_id_loadModel hmodel]
      cases model <;> rfl
    rw [hlength] at hmodels hlists
    refine ⟨?_, ?_, ?_, ?_⟩
    · rw [hlists, hacc.lists, List.length_append]
      omega
    · rw [hcells, hacc.cells, List.map_append, List.sum_append, length_cellList hmodel]
    · rw [hmodels, hacc.models, List.length_append]
    · rw [hentry]
      exact (congrArg Region.size hbuilds).trans hacc.builds
  by_cases hbuild : curNode.name = "BuildList"
  · obtain ⟨r, hr⟩ := fillInfo_isOk (by decide : ∀ key ∈ buildInfo, isNet key = false) curNode 0 1
      junk .zero
    have hentry : buildEntry junk (s.modelList.map Model.id) curNode =
        [(s.modelList.map Model.id, r.1 3)] := by
      rw [buildEntry, if_pos hbuild, storedMODID, hr]
    rw [loadNode_buildList hbuild hr] at hl
    rw [DoorIntercom.loadNode_buildList hbuild, hr] at hs
    obtain ⟨heap', hheap, rfl⟩ := map_eq_ok hl
    cases hs
    obtain ⟨hlists, hcells, hmodels, hbuilds⟩ := h.addBuild_sizes hmatched hheap
    refine ⟨hlists.trans hacc.lists, (congrArg Region.size hcells).trans hacc.cells,
      (congrArg Region.size hmodels).trans hacc.models, ?_⟩
    rw [hacc.builds] at hbuilds
    rw [hentry]
    dsimp only
    omega
  · have hentry : buildEntry junk (s.modelList.map Model.id) curNode = [] := by
      rw [buildEntry, if_neg hbuild]
    rw [loadNode_other hmodol hbuild] at hl
    rw [value_loadNode_other hmodol hbuild] at hs
    obtain ⟨t, -, rfl⟩ := map_eq_ok hl
    obtain ⟨t', -, rfl⟩ := map_eq_ok hs
    rw [hentry]
    exact ⟨hacc.lists, hacc.cells, hacc.models, hacc.builds⟩

/-- The numbers of the models after an element. -/
theorem map_id_loadNode {i : ℕ} (hs : DoorIntercom.loadNode (junk.at i) curNode s = .ok s') :
    s'.modelList.map Model.id = s.modelList.map Model.id ++ storedIds [curNode] := by
  have hone : DoorIntercom.loadNodes junk i [curNode] s = .ok s' := by
    rw [DoorIntercom.loadNodes, hs]
    rfl
  exact map_id_modelList hone

/-- **The whole loop.** -/
theorem Loader.Accounted.loadNodes (hacc : l.Accounted s n) (h : l.Holds s ms bs)
    (hmatched : s.Matched) {i : ℕ} {nodes : List XmlNode}
    (hl : Linked.loadNodes junk i nodes l = .ok l')
    (hs : DoorIntercom.loadNodes junk i nodes s = .ok s') :
    l'.Accounted s' (n + dropped (buildEntries junk i (s.modelList.map Model.id) nodes)) := by
  induction nodes generalizing i l s ms bs n with
  | nil =>
    cases hl
    cases hs
    exact hacc
  | cons curNode nodes ih =>
    obtain ⟨l₁, hl₁, hl⟩ := bind_eq_ok.1 hl
    obtain ⟨s₁, hs₁, hs⟩ := loadNodes_cons hs
    obtain ⟨-, s₂, hs₂, ms₁, bs₁, hholds⟩ :=
      (simulates_loadNode h hmatched (junk.at i) curNode).sound l₁ hl₁
    cases hs₁.symm.trans hs₂
    have hids := map_id_loadNode hs₁
    have hnext := ih (hacc.loadNode h hmatched hl₁ hs₁) hholds (hmatched.loadNode hs₁) hl hs
    rw [buildEntries, ← hids, dropped, List.countP_append, ← Nat.add_assoc]
    exact hnext

end Ledger

/-! ### The elements and the builds -/

section Entries

variable {s s' : DoorIntercom.Loader} {junk : Junk} {i : ℕ} {curNode : XmlNode}
  {nodes : List XmlNode} {mem : Mem} {id : UChar}

/-- A record is in a build if there was one with its number, or if there is a model. -/
theorem mem_map_MODID_addBuild (hmatched : s.Matched) :
    id ∈ (DoorIntercom.addBuild s.modelList s.buildList mem).map Build.MODID ↔
      id ∈ s.buildList.map Build.MODID ∨ mem 3 = id ∧ mem 3 ∈ s.modelList.map Model.id := by
  cases hfind : s.buildList.find? fun build ↦ build.MODID = mem 3 with
  | some build =>
    have hin := List.mem_map_of_mem (f := Build.MODID) (List.mem_of_find?_eq_some hfind)
    have hMODID : build.MODID = mem 3 := by simpa using List.find?_some hfind
    have hgrow : (s.buildList.map fun build ↦
        if build.MODID = mem 3 then build.grow else build).map Build.MODID =
          s.buildList.map Build.MODID := by
      rw [List.map_map]
      refine List.map_congr_left fun build _ ↦ ?_
      rw [Function.comp_apply]
      split_ifs <;> rfl
    rw [DoorIntercom.addBuild_of_exists hmatched.nodup hfind, hgrow]
    exact ⟨Or.inl, fun h ↦ h.elim (fun hold ↦ hold) fun hnew ↦ by
      rw [← hnew.1, ← hMODID]
      exact hin⟩
  | none =>
    rw [addBuild_of_not_exists hfind, List.map_append, List.mem_append]
    refine or_congr_right ?_
    cases hmodel : s.modelList.find? fun model ↦ model.id = mem 3 with
    | some model =>
      have hfound : mem 3 ∈ s.modelList.map Model.id :=
        List.mem_map.2 ⟨_, List.mem_of_find?_eq_some hmodel, by simpa using List.find?_some hmodel⟩
      rw [Option.map_some, Option.toList_some, List.map_singleton, List.mem_singleton, eq_comm,
        show (DoorIntercom.readBuild mem model).MODID = mem 3 from rfl, and_iff_left hfound]
    | none =>
      have hfound : mem 3 ∉ s.modelList.map Model.id := by
        intro hin
        obtain ⟨model, hmem, hid⟩ := List.mem_map.1 hin
        exact absurd hid (by simpa using List.find?_eq_none.1 hmodel model hmem)
      simp only [Option.map_none, Option.toList_none, List.map_nil, List.not_mem_nil, hfound,
        and_false]

/-- **The builds in the end** are those of the elements that found a model. -/
theorem mem_map_MODID_loadNodes (hmatched : s.Matched)
    (hs : DoorIntercom.loadNodes junk i nodes s = .ok s') :
    id ∈ s'.buildList.map Build.MODID ↔ id ∈ s.buildList.map Build.MODID ∨
      ∃ p ∈ buildEntries junk i (s.modelList.map Model.id) nodes, p.2 = id ∧ p.2 ∈ p.1 := by
  induction nodes generalizing i s with
  | nil =>
    cases hs
    simp [buildEntries]
  | cons curNode nodes ih =>
    obtain ⟨s₁, hs₁, hs⟩ := loadNodes_cons hs
    have hids := map_id_loadNode hs₁
    rw [ih (hmatched.loadNode hs₁) hs, buildEntries, ← hids]
    simp only [List.mem_append, or_and_right, exists_or]
    rw [← or_assoc]
    refine or_congr_left ?_
    rcases loadNode_cases hs₁ with ⟨hn, model, -, rfl⟩ | ⟨hn, r, hr, rfl⟩ | ⟨hn, mem, rfl⟩ |
      ⟨hn, mem, rfl⟩
    · simp [buildEntry, hn]
    · rw [mem_map_MODID_addBuild hmatched]
      simp [buildEntry, hn, storedMODID, hr]
    · simp [buildEntry, hn]
    · simp only [List.mem_cons, List.not_mem_nil, or_false, not_or] at hn
      simp [buildEntry, hn]

end Entries

/-! ### The ledger of `freeArea` -/

/-- The object is a build. -/
def Object.isBuild : Object → Bool
  | .build _ => true
  | _ => false

/-- The object is a model. -/
def Object.isModel : Object → Bool
  | .model _ => true
  | _ => false

/-- The object is a cell. -/
def Object.isCell : Object → Bool
  | .cell _ => true
  | _ => false

/-- What is allocated and what was freed are together what was allocated before. -/
structure Freeing.Balances (s : Freeing) (heap : Heap) : Prop where
  lists : s.heap.lists.size + s.destroyed.length = heap.lists.size
  cells : s.heap.cells.size + s.freed.countP Object.isCell = heap.cells.size
  models : s.heap.models.size + s.freed.countP Object.isModel = heap.models.size
  builds : s.heap.builds.size + s.freed.countP Object.isBuild = heap.builds.size

section Balance

variable {heap : Heap} {s s' : Freeing} {list cellList buildList : ℕ} {bs : List BuildShape}

theorem Heap.deleateFirst_sizes {r : ℕ × Heap} (h : heap.deleateFirst list = .ok r) :
    ∃ lists, r.2 = { heap with lists } ∧ lists.size = heap.lists.size := by
  obtain ⟨_, -, h⟩ := bind_eq_ok.1 h
  obtain ⟨_, -, h⟩ := bind_eq_ok.1 h
  obtain ⟨_, -, h⟩ := bind_eq_ok.1 h
  obtain ⟨_, -, h⟩ := bind_eq_ok.1 h
  obtain ⟨lists, hlists, h⟩ := bind_eq_ok.1 h
  cases h
  exact ⟨lists, rfl, Region.size_of_store (orDangling_eq_ok.1 hlists)⟩

/-- **A list is destroyed.** -/
theorem Freeing.Balances.destroy (hs : s.Balances heap) (h : s.destroy list = .ok s') :
    s'.Balances heap := by
  obtain ⟨tlist, -, h⟩ := bind_eq_ok.1 h
  obtain ⟨lists, hlists, h⟩ := bind_eq_ok.1 h
  cases h
  have hsize := Region.size_of_free (orDangling_eq_ok.1 hlists)
  have hbefore := hs.lists
  refine ⟨?_, hs.cells, hs.models, hs.builds⟩
  rw [List.length_append, List.length_singleton]
  dsimp only
  omega

/-- **A cell is freed.** -/
theorem Freeing.Balances.freeCell (hs : s.Balances heap)
    (h : Linked.freeCell cellList s = .ok (some s')) : s'.Balances heap := by
  obtain ⟨more, -, h⟩ := bind_eq_ok.1 h
  cases more with
  | false => cases h
  | true =>
    obtain ⟨cell, hcell, h⟩ := bind_eq_ok.1 h
    obtain ⟨cells, hcells, h⟩ := bind_eq_ok.1 h
    obtain ⟨lists, hheap, hlists⟩ := Heap.deleateFirst_sizes hcell
    cases h
    rw [hheap] at hcells ⊢
    have hsize := Region.size_of_free (orDangling_eq_ok.1 hcells)
    have hbefore := hs.cells
    refine ⟨?_, ?_, ?_, ?_⟩
    · rw [← hs.lists]
      exact congrArg (· + s.destroyed.length) hlists
    · rw [List.countP_append, show [Object.cell cell.1].countP Object.isCell = 1 from rfl]
      dsimp only at hsize ⊢
      omega
    · rw [List.countP_append]
      exact hs.models
    · rw [List.countP_append]
      exact hs.builds

/-- **A build is freed**, with its model and the cells of it. -/
theorem Freeing.Balances.freeBuild (hs : s.Balances heap)
    (h : Linked.freeBuild buildList s = .ok (some s')) : s'.Balances heap := by
  obtain ⟨more, -, h⟩ := bind_eq_ok.1 h
  cases more with
  | false => cases h
  | true =>
    obtain ⟨build, hbuild, h⟩ := bind_eq_ok.1 h
    obtain ⟨record, -, h⟩ := bind_eq_ok.1 h
    obtain ⟨model, -, h⟩ := bind_eq_ok.1 h
    obtain ⟨modelRecord, -, h⟩ := bind_eq_ok.1 h
    obtain ⟨s₁, hcells, h⟩ := bind_eq_ok.1 h
    obtain ⟨s₂, hdestroy, h⟩ := bind_eq_ok.1 h
    obtain ⟨models, hmodels, h⟩ := bind_eq_ok.1 h
    obtain ⟨builds, hbuilds, h⟩ := bind_eq_ok.1 h
    obtain ⟨lists, hheap, hlists⟩ := Heap.deleateFirst_sizes hbuild
    have hstart : Freeing.Balances { s with heap := build.2 } heap := by
      rw [hheap]
      refine ⟨?_, hs.cells, hs.models, hs.builds⟩
      rw [← hs.lists]
      exact congrArg (· + s.destroyed.length) hlists
    have hbalances : s₁.Balances heap :=
      WhileLoop.run_invariant (I := fun t ↦ t.Balances heap)
        (fun _ _ hinv hturn ↦ hinv.freeCell hturn) hstart hcells
    have hafter := hbalances.destroy hdestroy
    cases h
    have hmodel := Region.size_of_free (orDangling_eq_ok.1 hmodels)
    have hbuild := Region.size_of_free (orDangling_eq_ok.1 hbuilds)
    have hmodel' := hafter.models
    have hbuild' := hafter.builds
    refine ⟨hafter.lists, ?_, ?_, ?_⟩
    · rw [List.countP_append]
      exact hafter.cells
    · rw [List.countP_append, show [Object.model model, .build build.1].countP Object.isModel = 1
        from rfl]
      dsimp only
      omega
    · rw [List.countP_append, show [Object.model model, .build build.1].countP Object.isBuild = 1
        from rfl]
      dsimp only
      omega

/-- **The ledger of `freeArea` balances.** -/
theorem balances_freeArea {area : Area} (h : freeArea area heap = .ok s) : s.Balances heap := by
  obtain ⟨s₁, hrun, hdestroy⟩ := bind_eq_ok.1 h
  have hbalances : s₁.Balances heap :=
    WhileLoop.run_invariant (I := fun t ↦ t.Balances heap)
      (fun _ _ hinv hturn ↦ hinv.freeBuild hturn) ⟨rfl, rfl, rfl, rfl⟩ hrun
  exact hbalances.destroy hdestroy

end Balance

/-! ### What is left -/

section Left

variable {l : Loader} {s : DoorIntercom.Loader} {ms : List ModelShape} {bs : List BuildShape}
  {heap : Heap} {ids : List UChar} {n : ℕ}

theorem Heap.isEmpty_iff : heap.IsEmpty ↔ heap.lists.size = 0 ∧ heap.cells.size = 0 ∧
    heap.models.size = 0 ∧ heap.builds.size = 0 := by
  simp only [Region.size_eq_zero_iff]
  exact ⟨fun h ↦ ⟨h.lists, h.cells, h.models, h.builds⟩,
    fun h ↦ ⟨h.1, h.2.1, h.2.2.1, h.2.2.2⟩⟩

/-- How much is freed of some builds. -/
theorem countP_objects (bs : List BuildShape) :
    (bs.flatMap BuildShape.objects).countP Object.isBuild = bs.length ∧
      (bs.flatMap BuildShape.objects).countP Object.isModel = bs.length ∧
      (bs.flatMap BuildShape.objects).countP Object.isCell =
        ((bs.map BuildShape.model).map fun m ↦ m.cells.length).sum := by
  induction bs with
  | nil => exact ⟨rfl, rfl, rfl⟩
  | cons b bs ih =>
    obtain ⟨hbuild, hmodel, hcell⟩ := ih
    have hcells : (b.model.cells.map Object.cell).countP Object.isBuild = 0 ∧
        (b.model.cells.map Object.cell).countP Object.isModel = 0 ∧
        (b.model.cells.map Object.cell).countP Object.isCell = b.model.cells.length := by
      simp [List.countP_map, Function.comp_def, Object.isBuild, Object.isModel, Object.isCell]
    simp only [List.flatMap_cons, List.countP_append, BuildShape.objects, hcells, hbuild, hmodel,
      hcell, List.length_cons, List.map_cons, List.sum_cons]
    exact ⟨Nat.add_comm _ _, Nat.add_comm _ _, rfl⟩

/-- A model in memory has the cells of its value. -/
theorem Heap.HoldsModel.length_cells {m : ModelShape} (h : heap.HoldsModel m) :
    m.value.cellList.length = m.cells.length := by
  have hlength := congrArg List.length h.cells
  rw [List.length_map, List.length_map] at hlength
  exact hlength.symm

/-- **Different numbers among some others** are all of them. -/
theorem length_eq_iff {MODIDs : List UChar} (hnodup : MODIDs.Nodup) (hsub : MODIDs ⊆ ids) :
    MODIDs.length = ids.length ↔ ids.Nodup ∧ ∀ id ∈ ids, id ∈ MODIDs := by
  constructor
  · intro hlength
    have hperm := (hnodup.subperm hsub).perm_of_length_le hlength.ge
    exact ⟨hperm.nodup_iff.1 hnodup, fun id hid ↦ hperm.symm.subset hid⟩
  · rintro ⟨hids, hmem⟩
    exact Nat.le_antisymm (hnodup.subperm hsub).length_le (hids.subperm hmem).length_le

/-- **What is left after freeing**: the models that are not those of a build, with their lists and
cells, and the builds that were dropped. -/
theorem Loader.Holds.exists_freeArea (h : l.Holds s ms bs) (hmatched : s.Matched)
    (hacc : l.Accounted s n) : ∃ t, freeArea ⟨l.mem, l.buildList⟩
        { l.heap with lists := l.heap.lists.set l.modelList none } = .ok t ∧
      t.heap.lists.size + bs.length = ms.length ∧
      t.heap.cells.size + ((bs.map BuildShape.model).map fun m ↦ m.cells.length).sum =
        (ms.map fun m ↦ m.cells.length).sum ∧
      t.heap.models.size + bs.length = ms.length ∧ t.heap.builds.size = n := by
  have hholds : Heap.HoldsBuilds _ (Area.mk l.mem l.buildList).buildList bs :=
    h.holdsBuilds hmatched
  obtain ⟨t, hfree, hfreed, hdestroyed, -⟩ := freeArea_holdsBuilds hholds
  obtain ⟨hlists, hcells, hmodels, hbuilds⟩ := balances_freeArea hfree
  obtain ⟨hisBuild, hisModel, hisCell⟩ := countP_objects bs
  have hmodelList : s.modelList.length = ms.length := by rw [h.modelList_eq, List.length_map]
  have hbuildList : s.buildList.length = bs.length := by rw [h.buildList_eq, List.length_map]
  have hcellList : l.heap.cells.size = (ms.map fun m ↦ m.cells.length).sum := by
    rw [hacc.cells, h.modelList_eq, List.map_map]
    exact congrArg List.sum (List.map_congr_left fun m hm ↦ (h.models m hm).length_cells)
  obtain ⟨tlist, hload, -⟩ := h.modelList
  have hfreeList := Region.size_of_free (Region.free_of_load hload)
  have hlength := congrArg List.length hdestroyed
  rw [List.length_map, List.length_append, List.length_map, List.length_singleton] at hlength
  rw [hfreed] at hcells hmodels hbuilds
  rw [hisCell, hcellList] at hcells
  rw [hisModel, hacc.models, hmodelList] at hmodels
  rw [hisBuild, hacc.builds, hbuildList] at hbuilds
  rw [hlength] at hlists
  rw [hacc.lists, hmodelList] at hfreeList
  dsimp only at hlists
  exact ⟨t, hfree, by omega, hcells, hmodels, by omega⟩

/-- **Nothing is left** if no build was dropped and every model has a build. -/
theorem Loader.Holds.isEmpty_iff (h : l.Holds s ms bs) (hmatched : s.Matched)
    (hacc : l.Accounted s n) : ∃ t, freeArea ⟨l.mem, l.buildList⟩
        { l.heap with lists := l.heap.lists.set l.modelList none } = .ok t ∧
      (t.heap.IsEmpty ↔ n = 0 ∧ bs.length = ms.length) := by
  obtain ⟨t, hfree, hlists, hcells, hmodels, hbuilds⟩ := h.exists_freeArea hmatched hacc
  refine ⟨t, hfree, ?_⟩
  rw [Heap.isEmpty_iff]
  constructor
  · rintro ⟨-, -, hnone, hnone'⟩
    omega
  · rintro ⟨rfl, heq⟩
    -- every model is that of a build, so every cell was in a list that was freed
    have hsubset : bs.map BuildShape.model ⊆ ms := fun m hm ↦ by
      obtain ⟨b, hb, rfl⟩ := List.mem_map.1 hm
      exact (h.known b hb).1
    have hperm := ((h.nodup_model hmatched).subperm hsubset).perm_of_length_le (by
      rw [List.length_map]
      exact heq.ge)
    rw [(hperm.map fun m ↦ m.cells.length).sum_nat] at hcells
    omega

/-- **What the document asks for**, of what is loaded. -/
theorem usesAll_iff {junk : Junk} {nodes : List XmlNode}
    (hs : DoorIntercom.loadNodes junk 0 nodes .start = .ok s) (hmatched : s.Matched) :
    UsesAll junk nodes ↔
      dropped (buildEntries junk 0 [] nodes) = 0 ∧ s.buildList.length = s.modelList.length := by
  have hids : s.modelList.map Model.id = storedIds nodes := map_id_modelList hs
  have hbuilds : ∀ id, id ∈ s.buildList.map Build.MODID ↔
      ∃ p ∈ buildEntries junk 0 [] nodes, p.2 = id ∧ p.2 ∈ p.1 := fun id ↦
    (mem_map_MODID_loadNodes matched_start hs).trans (or_iff_right List.not_mem_nil)
  have hfound : dropped (buildEntries junk 0 [] nodes) = 0 ↔
      ∀ p ∈ buildEntries junk 0 [] nodes, p.2 ∈ p.1 := by
    rw [dropped, List.countP_eq_zero]
    simp
  have hsub : s.buildList.map Build.MODID ⊆ storedIds nodes := fun id hid ↦ by
    obtain ⟨build, hbuild, rfl⟩ := List.mem_map.1 hid
    obtain ⟨hmodel, hMODID⟩ := hmatched.model build hbuild
    exact hids ▸ hMODID ▸ List.mem_map_of_mem hmodel
  have hlength := length_eq_iff hmatched.nodup hsub
  rw [← hids, List.length_map, List.length_map, hids] at hlength
  rw [hfound, hlength]
  simp only [hbuilds]
  constructor
  · rintro ⟨hfound, hnodup, hused⟩
    refine ⟨hfound, hnodup, fun id hid ↦ ?_⟩
    obtain ⟨p, hp, rfl⟩ := hused id hid
    exact ⟨p, hp, rfl, hfound p hp⟩
  · rintro ⟨hfound, hnodup, hused⟩
    refine ⟨hfound, hnodup, fun id hid ↦ ?_⟩
    obtain ⟨p, hp, heq, -⟩ := hused id hid
    exact ⟨p, hp, heq⟩

/-- **Everything is given back** if and only if the document can be loaded on `arm64-v8a`, every
`BuildList` element comes behind a model with its number, and every model has a number of its own
and a build. -/
theorem givesBack_iff (junk : Junk) (nodes : List XmlNode) :
    GivesBack junk nodes ↔
      Countable 0 nodes ∧ (∀ node ∈ nodes, Loadable node) ∧ netItems nodes ≤ 3 ∧
        UsesAll junk nodes := by
  have hiff : ∀ l, loadNodes junk 0 nodes .start = .ok l →
      (GivesBack junk nodes ↔ UsesAll junk nodes) := by
    intro l hl
    obtain ⟨-, s, hs, hmatched, ms, bs, hholds⟩ := (simulates_start junk nodes).sound l hl
    have hstart : Loader.start.Accounted .start 0 := ⟨rfl, rfl, rfl, rfl⟩
    have hacc := hstart.loadNodes holds_start matched_start hl hs
    obtain ⟨t, hfree, hempty⟩ := hholds.isEmpty_iff hmatched hacc
    obtain ⟨tlist, hload, -⟩ := hholds.modelList
    have harea := getAreaInfo_of_ok hl hload
    rw [usesAll_iff hs hmatched, hholds.buildList_eq, hholds.modelList_eq, List.length_map,
      List.length_map]
    rw [Nat.zero_add] at hempty
    refine Iff.trans ?_ hempty
    constructor
    · rintro ⟨area, heap, t', harea', hfree', hgone⟩
      cases harea.symm.trans harea'
      cases hfree.symm.trans hfree'
      exact hgone
    · exact fun hgone ↦ ⟨_, _, t, harea, hfree, hgone⟩
  constructor
  · intro hgives
    obtain ⟨area, heap, t, hload, -⟩ := id hgives
    obtain ⟨l, hl⟩ := exists_loadNodes hload
    obtain ⟨hcount, hloadable, hroom⟩ := (loadNodes_isOk_iff junk nodes).1 ⟨l, hl⟩
    exact ⟨hcount, hloadable, hroom, (hiff l hl).1 hgives⟩
  · rintro ⟨hcount, hloadable, hroom, huses⟩
    obtain ⟨l, hl⟩ := (loadNodes_isOk_iff junk nodes).2 ⟨hcount, hloadable, hroom⟩
    exact (hiff l hl).2 huses

end Left

end Linked

end DoorIntercom
