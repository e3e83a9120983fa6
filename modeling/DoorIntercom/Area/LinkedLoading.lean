import DoorIntercom.Area.LinkedArea
import DoorIntercom.Area.LoadedBuildings
import DoorIntercom.Lib.Simulation

/-!
# Loading into memory

Every element of a document does to the memory what it does to the lists of `Area.GetAreaInfo`
(`simulates_loadNode`), and so does the whole loop (`simulates_loadNodes`), as long as no list has a
length that its `int` cannot count (`Countable`).

Each function of the loader has an equation for what it calls, and a lemma that follows the pointers
through it. What is new is added under names that were not used, so that nothing held before is
changed.

No two builds have the same number, so no two builds share a model (`Holds.modelsSeparate`).
-/

namespace DoorIntercom

open FallibleRun

namespace Linked

/-! ### Models -/

/-- The number of `Item`s. -/
def items (nodes : List XmlNode) : ℕ := nodes.countP fun subNode ↦ subNode.name = "Item"

/-- New cells with the given values are added to a list, and nothing else changes. -/
structure Heap.GainsCells (heap heap' : Heap) (cellList : ℕ) (cells new : List ℕ)
    (values : List Cell) : Prop where
  ext : heap.Extends heap' cellList
  builds : heap'.builds = heap.builds
  cellList : heap'.HoldsList cellList (cells ++ new)
  values : new.map heap'.cells.load = values.map some
  nodup : new.Nodup
  fresh : ∀ p ∈ new, heap.cells.load p = none

section Cells

variable {heap heap' : Heap} {cellList : ℕ} {cells new : List ℕ} {values : List Cell}

/-- No cell is added. -/
theorem Heap.GainsCells.refl (h : heap.HoldsList cellList cells) :
    heap.GainsCells heap cellList cells [] [] where
  ext := heap.extends_builds heap.builds cellList
  builds := rfl
  cellList := by rwa [List.append_nil]
  values := rfl
  nodup := List.nodup_nil
  fresh _ hp := nomatch hp

/-- One cell, and then others. -/
theorem Heap.GainsCells.cons {heap'' : Heap} {p : ℕ} {cell : Cell}
    (h : heap.GainsCells heap' cellList cells [p] [cell])
    (h' : heap'.GainsCells heap'' cellList (cells ++ [p]) new values) :
    heap.GainsCells heap'' cellList cells (p :: new) (cell :: values) := by
  have hp : heap'.cells.load p = some cell := List.singleton_inj.1 h.values
  refine ⟨h.ext.trans h'.ext, h'.builds.trans h.builds, ?_, ?_, ?_, ?_⟩
  · rw [← List.singleton_append, ← List.append_assoc]
    exact h'.cellList
  · rw [List.map_cons, List.map_cons, h'.ext.cells p cell hp, h'.values]
  · rw [List.nodup_cons]
    refine ⟨fun hin ↦ ?_, h'.nodup⟩
    rw [h'.fresh p hin] at hp
    cases hp
  · intro q hq
    rcases List.mem_cons.1 hq with rfl | hq
    · exact h.fresh q (List.mem_singleton_self q)
    · -- what was allocated before is still allocated
      cases hload : heap.cells.load q with
      | none => rfl
      | some cell' =>
        rw [← h'.fresh q hq, h.ext.cells q cell' hload]

/-- **One cell** is added, if the length can count it. -/
theorem appendCell (hlist : heap.HoldsList cellList cells) (hnodup : cells.Nodup)
    (halloc : ∀ p ∈ cells, ∃ cell, heap.cells.load p = some cell) (cell : Cell) :
    if cells.length + 1 < 2 ^ 31 then
      ∃ heap' p, Heap.appendNode { heap with cells := (heap.cells.malloc cell).2 } cellList
          (heap.cells.malloc cell).1 = .ok heap' ∧
        heap.GainsCells heap' cellList cells [p] [cell]
    else Heap.appendNode { heap with cells := (heap.cells.malloc cell).2 } cellList
      (heap.cells.malloc cell).1 = .error .length := by
  have hfresh : (heap.cells.malloc cell).1 ∉ cells := fun hin ↦ by
    obtain ⟨cell', hload⟩ := halloc _ hin
    exact Region.ne_malloc_of_load hload cell rfl
  have hlist' : Heap.HoldsList { heap with cells := (heap.cells.malloc cell).2 } cellList cells :=
    hlist
  have happend := hlist'.appendNode hnodup hfresh
  split_ifs at happend ⊢ with hlt
  · obtain ⟨tlist', hok, hrep⟩ := happend
    refine ⟨_, _, hok, ⟨?_, ?_, ?_⟩, rfl, hlist'.set hrep, ?_, List.nodup_singleton _, ?_⟩
    · exact fun p tlist hne hload ↦ (Region.load_set_of_ne hne _).trans hload
    · exact fun p cell' hload ↦ Region.load_malloc_of_load hload cell
    · exact fun p record hload ↦ hload
    · rw [List.map_singleton, List.map_singleton, Region.load_malloc_self]
    · intro p hp
      rw [List.mem_singleton.1 hp, Region.load_malloc_fst]
  · exact happend

section Item

variable {junk : Junk} {i : ℕ} {subNode : XmlNode} {rest : List XmlNode} {r : Mem × ℕ}
  (hitem : subNode.name = "Item") (hr : fillInfo cellInfo subNode 0 1 (junk.at i) .zero = .ok r)

include hitem hr

theorem loadCells_cons : loadCells junk cellList i (subNode :: rest) heap =
    Heap.appendNode { heap with cells := (heap.cells.malloc (readCell r.1)).2 } cellList
      (heap.cells.malloc (readCell r.1)).1 >>= loadCells junk cellList (i + 1) rest := by
  rw [loadCells, if_pos hitem, hr]
  rfl

theorem map_loadCells : DoorIntercom.loadCells junk i (subNode :: rest) =
    (DoorIntercom.loadCells junk (i + 1) rest).map (readCell r.1 :: ·) := by
  rw [DoorIntercom.loadCells, if_pos hitem, hr]
  cases DoorIntercom.loadCells junk (i + 1) rest <;> rfl

end Item

/-- **The cells of a model.** -/
theorem simulates_loadCells (junk : Junk) (i : ℕ) (nodes : List XmlNode)
    (hlist : heap.HoldsList cellList cells) (hnodup : cells.Nodup)
    (halloc : ∀ p ∈ cells, ∃ cell, heap.cells.load p = some cell) :
    Simulates (cells.length + items nodes < 2 ^ 31)
      (fun heap' values ↦ ∃ new, heap.GainsCells heap' cellList cells new values)
      (loadCells junk cellList i nodes heap) (DoorIntercom.loadCells junk i nodes) := by
  induction nodes generalizing i heap cells with
  | nil => exact Simulates.of_ok hlist.length_lt ⟨[], Heap.GainsCells.refl hlist⟩
  | cons subNode rest ih =>
    by_cases hitem : subNode.name = "Item"
    · obtain ⟨r, hr⟩ := fillInfo_isOk (by decide : ∀ key ∈ cellInfo, isNet key = false)
        subNode 0 1 (junk.at i) .zero
      have hcount : items (subNode :: rest) = items rest + 1 := by simp [items, hitem]
      have happend := appendCell hlist hnodup halloc (readCell r.1)
      rw [loadCells_cons hitem hr, map_loadCells hitem hr, hcount]
      split_ifs at happend with hlt
      · obtain ⟨heap', p, hok, hgains⟩ := happend
        have halloc' : ∀ q ∈ cells ++ [p], ∃ cell, heap'.cells.load q = some cell := by
          intro q hq
          rcases List.mem_append.1 hq with hq | hq
          · obtain ⟨cell, hload⟩ := halloc q hq
            exact ⟨cell, hgains.ext.cells q cell hload⟩
          · rw [List.mem_singleton.1 hq]
            exact ⟨_, List.singleton_inj.1 hgains.values⟩
        have hnodup' : (cells ++ [p]).Nodup := by
          rw [← List.concat_eq_append]
          refine hnodup.concat fun hin ↦ ?_
          obtain ⟨cell, hload⟩ := halloc p hin
          rw [hgains.fresh p (List.mem_singleton_self p)] at hload
          cases hload
        have hrest := ih (i + 1) hgains.cellList hnodup' halloc'
        rw [hok, ok_bind]
        refine (hrest.map_right fun heap'' values hvalues ↦ ?_).congr ?_
        · obtain ⟨new, hnew⟩ := hvalues
          exact ⟨p :: new, hgains.cons hnew⟩
        · rw [List.length_append, List.length_singleton]
          omega
      · rw [happend]
        exact Simulates.of_not_limits (by omega) _ _
    · have hcount : items (subNode :: rest) = items rest := by simp [items, hitem]
      rw [loadCells, DoorIntercom.loadCells, if_neg hitem, if_neg hitem, hcount]
      exact ih (i + 1) hlist hnodup halloc

end Cells

section Models

variable {l : Loader} {s : DoorIntercom.Loader} {ms : List ModelShape} {bs : List BuildShape}
  {heap' : Heap} {changed : ℕ} {m : ModelShape} {junk : Junk} {curNode : XmlNode}

/-- **The frame.** What is held stays so while only other objects change. -/
theorem Loader.Holds.frame (h : l.Holds s ms bs) (hext : l.heap.Extends heap' changed)
    (hchanged : changed ∉ l.buildList :: l.modelList :: ms.map ModelShape.cellList)
    (hbuilds : ∀ b ∈ bs, heap'.builds.load b.build = l.heap.builds.load b.build) :
    Loader.Holds { l with heap := heap' } s ms bs := by
  simp only [List.mem_cons, not_or] at hchanged
  obtain ⟨hbuild, hmodel, hcell⟩ := hchanged
  exact { h with
    modelList := hext.holdsList (Ne.symm hmodel) h.modelList
    buildList := hext.holdsList (Ne.symm hbuild) h.buildList
    models := fun m hm ↦ (h.models m hm).mono
      (fun heq ↦ hcell (List.mem_map.2 ⟨m, hm, heq⟩)) hext
    builds := fun b hb ↦ (hbuilds b hb).trans (h.builds b hb) }

/-- The name of a new list is not used. -/
theorem Loader.Holds.createList_notMem (h : l.Holds s ms bs) :
    l.heap.createList.1 ∉ l.buildList :: l.modelList :: ms.map ModelShape.cellList := by
  simp only [List.mem_cons, List.mem_map, not_or, not_exists, not_and]
  exact ⟨h.buildList.ne_createList.symm, h.modelList.ne_createList.symm,
    fun m hm ↦ (h.models m hm).cellList.ne_createList⟩

/-- **A model is added** to the list, with pointers that are not used. -/
theorem Loader.Holds.addModel (h : l.Holds s ms bs) (hm : l.heap.HoldsModel m)
    (hmodel : m.model ∉ ms.map ModelShape.model)
    (hlist : m.cellList ∉ l.buildList :: l.modelList :: ms.map ModelShape.cellList)
    (hnodup : m.cells.Nodup) (hcells : ∀ p ∈ m.cells, p ∉ ms.flatMap ModelShape.cells)
    {tlist : TLinkList ℕ} (hrep : Represents (some tlist) (ms.map ModelShape.model ++ [m.model])) :
    Loader.Holds
      { l with heap := { l.heap with lists := l.heap.lists.set l.modelList (some tlist) } }
      { s with modelList := s.modelList ++ [m.value] } (ms ++ [m]) bs := by
  have hext := l.heap.extends_set l.modelList (some tlist)
  obtain ⟨hbuild, hlists⟩ := List.nodup_cons.1 h.nodup_lists
  obtain ⟨hmodels, -⟩ := List.nodup_cons.1 hlists
  have hlist' := hlist
  simp only [List.mem_cons, not_or] at hlist hbuild
  refine ⟨h.mem, h.netItemIndex, ?_, h.buildList_eq, ?_, ?_, ?_, h.builds, ?_, ?_, ?_, ?_⟩
  · rw [List.map_append, ← h.modelList_eq]
    rfl
  · rw [List.map_append]
    exact h.modelList.set hrep
  · exact hext.holdsList hbuild.1 h.buildList
  · intro m' hm'
    rcases List.mem_append.1 hm' with hm' | hm'
    · exact (h.models m' hm').mono (fun heq ↦ hmodels (List.mem_map.2 ⟨m', hm', heq⟩)) hext
    · rw [List.mem_singleton.1 hm']
      exact hm.mono hlist.2.1 hext
  · exact fun b hb ↦ ⟨List.mem_append_left _ (h.known b hb).1, (h.known b hb).2⟩
  · rw [List.map_append, List.map_singleton, ← List.concat_eq_append]
    exact h.nodup_models.concat hmodel
  · rw [List.map_append, List.map_singleton, ← List.cons_append, ← List.cons_append,
      ← List.concat_eq_append]
    exact h.nodup_lists.concat hlist'
  · rw [List.flatMap_append, List.flatMap_singleton, List.nodup_append]
    refine ⟨h.nodup_cells, hnodup, fun p hp q hq heq ↦ ?_⟩
    exact hcells q hq (heq ▸ hp)

section Children

variable {subNode : XmlNode} {rest : List XmlNode} {id : UChar} {heap : Heap} {modelList : ℕ}
  (hchildren : curNode.children = subNode :: rest)

include hchildren

theorem loadModel_cons (hid : loadModelId subNode = .ok id) :
    loadModel junk curNode modelList heap =
      loadCells junk heap.createList.1 0 (subNode :: rest)
        { heap.createList.2 with
          models := (heap.models.malloc ⟨id, heap.createList.1⟩).2 } >>=
        fun heap' ↦ heap'.appendNode modelList (heap.models.malloc ⟨id, heap.createList.1⟩).1 := by
  rw [loadModel, hchildren]
  dsimp only
  rw [hid]
  rfl

theorem value_loadModel_cons (hid : loadModelId subNode = .ok id) :
    DoorIntercom.loadModel junk curNode =
      DoorIntercom.loadCells junk 0 (subNode :: rest) >>=
        fun cellList ↦ .ok (some ⟨id, cellList⟩) := by
  rw [DoorIntercom.loadModel, hchildren]
  dsimp only
  rw [hid]
  rfl

/-- Without the content of its `ID` a model is not loaded, here and there. -/
theorem loadModel_error {fault : LoadFault} (hid : loadModelId subNode = .error fault)
    (junk : Junk) (modelList : ℕ) (heap : Heap) :
    loadModel junk curNode modelList heap = .error (.load fault) ∧
      DoorIntercom.loadModel junk curNode = .error fault := by
  rw [loadModel, DoorIntercom.loadModel, hchildren]
  dsimp only
  rw [hid]
  exact ⟨rfl, rfl⟩

end Children

/-- **A model with new pointers** is added, if the length can count it. -/
theorem simulates_appendModel (h : l.Holds s ms bs)
    (hext : l.heap.Extends heap' l.heap.createList.1) (hbuilds : heap'.builds = l.heap.builds)
    (hm : heap'.HoldsModel m) (hlist : m.cellList = l.heap.createList.1)
    (hmodel : l.heap.models.load m.model = none) (hnodup : m.cells.Nodup)
    (hfresh : ∀ p ∈ m.cells, l.heap.cells.load p = none) :
    Simulates (ms.length + 1 < 2 ^ 31)
      (fun heap'' model ↦ ∃ ms', Loader.Holds { l with heap := heap'' }
        { s with modelList := s.modelList ++ model.toList } ms' bs)
      (heap'.appendNode l.modelList m.model) (.ok (some m.value) : Except LoadFault _) := by
  have hframe := h.frame hext h.createList_notMem fun b _ ↦ by rw [hbuilds]
  have hmodel' : m.model ∉ ms.map ModelShape.model := fun hin ↦ by
    obtain ⟨m', hm', heq⟩ := List.mem_map.1 hin
    rw [← heq, (h.models m' hm').record] at hmodel
    cases hmodel
  have hcells : ∀ p ∈ m.cells, p ∉ ms.flatMap ModelShape.cells := fun p hp hin ↦ by
    obtain ⟨m', hm', hmem⟩ := List.mem_flatMap.1 hin
    obtain ⟨cell, hload⟩ := (h.models m' hm').exists_load hmem
    rw [hfresh p hp] at hload
    cases hload
  have happend := hframe.modelList.appendNode h.nodup_models hmodel'
  rw [List.length_map] at happend
  split_ifs at happend with hlt
  · obtain ⟨tlist, hok, hrep⟩ := happend
    rw [show heap'.appendNode l.modelList m.model = _ from hok]
    exact Simulates.of_ok hlt
      ⟨_, hframe.addModel hm hmodel' (hlist ▸ h.createList_notMem) hnodup hcells hrep⟩
  · rw [show heap'.appendNode l.modelList m.model = _ from happend]
    exact Simulates.of_not_limits hlt _ _

/-- Without children, a model is allocated and freed again. -/
theorem Loader.Holds.loadModel_nil (h : l.Holds s ms bs) (hchildren : curNode.children = [])
    (junk : Junk) :
    ∃ heap', loadModel junk curNode l.modelList l.heap = .ok heap' ∧
      Loader.Holds { l with heap := heap' } s ms bs := by
  have hload := Region.load_malloc_self (r := l.heap.models) ⟨0, 0⟩
  have hext := l.heap.extends_freeModel ⟨0, 0⟩ l.heap.createList.1
  refine ⟨_, ?_, h.frame hext h.createList_notMem fun _ _ ↦ rfl⟩
  rw [loadModel, hchildren]
  simp only [Region.free_of_load hload, orDangling_some, ok_bind]
  rfl

/-- **A model is loaded.** -/
theorem simulates_loadModel (h : l.Holds s ms bs) (junk : Junk) (curNode : XmlNode) :
    Simulates
      (ms.length + (storedId curNode).toList.length < 2 ^ 31 ∧ items curNode.children < 2 ^ 31)
      (fun heap' model ↦ ∃ ms', Loader.Holds { l with heap := heap' }
        { s with modelList := s.modelList ++ model.toList } ms' bs)
      (loadModel junk curNode l.modelList l.heap) (DoorIntercom.loadModel junk curNode) := by
  have hlength : ms.length < 2 ^ 31 := by simpa using h.modelList.length_lt
  cases hchildren : curNode.children with
  | nil =>
    have hstored : storedId curNode = none := by simp [storedId, hchildren]
    obtain ⟨heap', hok, hholds⟩ := h.loadModel_nil hchildren junk
    rw [hok, DoorIntercom.loadModel, hchildren, hstored]
    refine Simulates.of_ok ⟨by simpa using hlength, by decide⟩ ⟨ms, ?_⟩
    rw [Option.toList_none, List.append_nil]
    exact hholds
  | cons subNode rest =>
    cases hid : loadModelId subNode with
    | error fault =>
      obtain ⟨hlinked, hvalue⟩ := loadModel_error hchildren hid junk l.modelList l.heap
      rw [hlinked, hvalue]
      exact Simulates.of_error _ _
    | ok id =>
      have hext := (l.heap.extends_createList l.heap.createList.1).trans
        (l.heap.createList.2.extends_mallocModel ⟨id, l.heap.createList.1⟩ l.heap.createList.1)
      have hempty : Heap.HoldsList
          { l.heap.createList.2 with
            models := (l.heap.models.malloc ⟨id, l.heap.createList.1⟩).2 }
          l.heap.createList.1 [] := l.heap.holdsList_createList
      have hcells := simulates_loadCells junk 0 (subNode :: rest) hempty List.nodup_nil (by simp)
      have hstored : (storedId curNode).toList.length = 1 := by simp [storedId, hchildren]
      rw [loadModel_cons hchildren hid, value_loadModel_cons hchildren hid, hstored, and_comm]
      rw [List.length_nil, Nat.zero_add] at hcells
      refine hcells.bind ?_
      rintro heap' values - ⟨new, hgains⟩
      have hholds : heap'.HoldsModel
          ⟨(l.heap.models.malloc ⟨id, l.heap.createList.1⟩).1, l.heap.createList.1, new,
            ⟨id, values⟩⟩ :=
        ⟨hgains.ext.models _ _ (Region.load_malloc_self _), hgains.cellList, hgains.values⟩
      have hnew := l.heap.models.load_malloc_fst ⟨id, l.heap.createList.1⟩
      have hext' : l.heap.Extends heap' l.heap.createList.1 := hext.trans hgains.ext
      have happend := simulates_appendModel h hext' hgains.builds hholds rfl hnew hgains.nodup
        hgains.fresh
      dsimp only at happend
      exact happend

end Models

/-! ### Builds -/

section Builds

variable {l : Loader} {s : DoorIntercom.Loader} {ms : List ModelShape} {bs : List BuildShape}
  {mem : Mem} {b : BuildShape} {m : ModelShape}

theorem Loader.Holds.map_MODID (h : l.Holds s ms bs) :
    (bs.map BuildShape.build).map l.heap.MODID = (s.buildList.map Build.MODID).map some := by
  rw [h.buildList_eq, List.map_map, List.map_map, List.map_map]
  refine List.map_congr_left fun b hb ↦ ?_
  rw [Function.comp_apply, Heap.MODID, h.builds b hb]
  rfl

/-- The builds in memory have different numbers, and so they are different objects. -/
theorem Loader.Holds.nodup_MODID (h : l.Holds s ms bs) (hmatched : s.Matched) :
    ((bs.map BuildShape.build).map l.heap.MODID).Nodup := by
  rw [h.map_MODID]
  exact hmatched.nodup.map (Option.some_injective _)

theorem Loader.Holds.find?_buildList (h : l.Holds s ms bs) (MODID : UChar) :
    s.buildList.find? (fun build ↦ build.MODID = MODID) =
      (bs.find? fun b ↦ b.value.MODID = MODID).map BuildShape.value := by
  rw [h.buildList_eq, List.find?_map]
  rfl

theorem Loader.Holds.find?_modelList (h : l.Holds s ms bs) (id : UChar) :
    s.modelList.find? (fun model ↦ model.id = id) =
      (ms.find? fun m ↦ m.value.id = id).map ModelShape.value := by
  rw [h.modelList_eq, List.find?_map]
  rfl

/-- The search for a build with the number. -/
theorem Loader.Holds.search_builds (h : l.Holds s ms bs) (mem : Mem) :
    search (fun p ↦ ((l.heap.builds.malloc (readBuild mem)).2.load p).map BuildRecord.MODID)
        (readBuild mem).MODID ((bs.map BuildShape.build).map some) =
      .ok ((bs.find? fun b ↦ b.value.MODID = mem 3).map BuildShape.build) := by
  refine search_map_some (fun b hb ↦ ?_) _
  rw [Region.load_malloc_of_load (h.builds b hb)]
  rfl

/-- The search for a model with the number. -/
theorem Loader.Holds.search_models (h : l.Holds s ms bs) (mem : Mem) :
    search (fun p ↦ (l.heap.models.load p).map ModelRecord.id) (readBuild mem).MODID
        ((ms.map ModelShape.model).map some) =
      .ok ((ms.find? fun m ↦ m.value.id = mem 3).map ModelShape.model) := by
  refine search_map_some (fun m hm ↦ ?_) _
  rw [(h.models m hm).record]
  rfl

/-- The builds after a merge: the build has grown, and the one of the element is freed. -/
def Heap.mergeBuild (heap : Heap) (mem : Mem) (b : BuildShape) : Heap :=
  { heap with
    builds := ((heap.builds.malloc (readBuild mem)).2.set b.build
      (some { b.record with buildEnd := b.value.buildEnd + 1 })).set
        (heap.builds.malloc (readBuild mem)).1 none }

/-- The builds with the one of the element, which has a model. -/
def Heap.mallocBuild (heap : Heap) (mem : Mem) (model : Option ℕ) : Heap :=
  { heap with
    builds := (heap.builds.malloc (readBuild mem)).2.set (heap.builds.malloc (readBuild mem)).1
      (some { readBuild mem with model := model }) }

theorem Loader.Holds.addBuild_of_exists (h : l.Holds s ms bs)
    (hfind : bs.find? (fun b ↦ b.value.MODID = mem 3) = some b) :
    addBuild l.buildList l.modelList mem l.heap = .ok (l.heap.mergeBuild mem b) := by
  have hsearch := h.search_builds mem
  have hload := h.builds b (List.mem_of_find?_eq_some hfind)
  have hload' := Region.load_malloc_of_load hload (readBuild mem)
  have hstored := (Region.load_set_of_ne (Region.ne_malloc_of_load hload (readBuild mem)).symm
    (some { b.record with buildEnd := b.value.buildEnd + 1 })).trans
      (Region.load_malloc_self (r := l.heap.builds) (readBuild mem))
  rw [hfind, Option.map_some] at hsearch
  simp only [addBuild, h.buildList.listNodes, ok_bind, hsearch, hload', orDangling_some,
    Region.store_of_load hload', show b.record.buildEnd = b.value.buildEnd from rfl,
    Region.free_of_load hstored]
  rfl

theorem Loader.Holds.addBuild_of_model (h : l.Holds s ms bs)
    (hfind : bs.find? (fun b ↦ b.value.MODID = mem 3) = none)
    (hmodel : ms.find? (fun m ↦ m.value.id = mem 3) = some m) :
    addBuild l.buildList l.modelList mem l.heap =
      (l.heap.mallocBuild mem (some m.model)).appendNode l.buildList
        (l.heap.builds.malloc (readBuild mem)).1 := by
  have hsearch := h.search_builds mem
  have hsearch' := h.search_models mem
  have hstore := Region.store_of_load (Region.load_malloc_self (r := l.heap.builds)
    (readBuild mem)) { readBuild mem with model := some m.model }
  rw [hfind, Option.map_none] at hsearch
  rw [hmodel, Option.map_some] at hsearch'
  simp only [addBuild, h.buildList.listNodes, h.modelList.listNodes, ok_bind, hsearch, hsearch',
    hstore, orDangling_some]
  rfl

theorem Loader.Holds.addBuild_of_no_model (h : l.Holds s ms bs)
    (hfind : bs.find? (fun b ↦ b.value.MODID = mem 3) = none)
    (hmodel : ms.find? (fun m ↦ m.value.id = mem 3) = none) :
    addBuild l.buildList l.modelList mem l.heap =
      .ok { l.heap with builds := (l.heap.builds.malloc (readBuild mem)).2 } := by
  have hsearch := h.search_builds mem
  have hsearch' := h.search_models mem
  rw [hfind, Option.map_none] at hsearch
  rw [hmodel, Option.map_none] at hsearch'
  simp only [addBuild, h.buildList.listNodes, h.modelList.listNodes, ok_bind, hsearch, hsearch']
  rfl

/-- A build with the number of an element has grown. -/
def BuildShape.merge (b : BuildShape) (MODID : UChar) : BuildShape :=
  if b.value.MODID = MODID then { b with value := b.value.grow } else b

/-- Merging keeps the pointers. -/
theorem BuildShape.merge_pointers (b : BuildShape) (MODID : UChar) :
    (b.merge MODID).build = b.build ∧ (b.merge MODID).model = b.model ∧
      (b.merge MODID).value.model = b.value.model ∧
        (b.merge MODID).value = if b.value.MODID = MODID then b.value.grow else b.value := by
  rw [BuildShape.merge]
  split_ifs <;> exact ⟨rfl, rfl, rfl, rfl⟩

/-- **A build has grown.** -/
theorem Loader.Holds.mergeBuild (h : l.Holds s ms bs) (hmatched : s.Matched)
    (hfind : bs.find? (fun b ↦ b.value.MODID = mem 3) = some b) :
    Loader.Holds { l with heap := l.heap.mergeBuild mem b }
      { s with buildList := DoorIntercom.addBuild s.modelList s.buildList mem } ms
      (bs.map fun b ↦ b.merge (mem 3)) := by
  have hb : b ∈ bs := List.mem_of_find?_eq_some hfind
  have hMODID : b.value.MODID = mem 3 := by simpa using List.find?_some hfind
  have hexists : s.buildList.find? (fun build ↦ build.MODID = mem 3) = some b.value := by
    rw [h.find?_buildList, hfind, Option.map_some]
  have hnodup := hmatched.nodup
  rw [h.buildList_eq, List.map_map] at hnodup
  have hbuilds : ∀ b' ∈ bs, (l.heap.mergeBuild mem b).builds.load (b'.merge (mem 3)).build =
      some (b'.merge (mem 3)).record := by
    intro b' hb'
    have hload := h.builds b' hb'
    have hne := Region.ne_malloc_of_load hload (readBuild mem)
    have hload' := Region.load_malloc_of_load hload (readBuild mem)
    rw [(b'.merge_pointers _).1, Heap.mergeBuild, Region.load_set_of_ne hne]
    by_cases hid : b'.value.MODID = mem 3
    · -- the numbers are different, so this is the build that was found
      cases List.inj_on_of_nodup_map hnodup hb' hb (hid.trans hMODID.symm)
      rw [Region.load_set_self hload', BuildShape.merge, if_pos hid]
      rfl
    · have hne' : b'.build ≠ b.build := fun heq ↦ hid <| by
        rw [heq, h.builds b hb] at hload
        exact (congrArg BuildRecord.MODID (Option.some.inj hload)).symm.trans hMODID
      rw [Region.load_set_of_ne hne', hload', BuildShape.merge, if_neg hid]
  refine { h with buildList_eq := ?_, buildList := ?_, builds := ?_, known := ?_, models := ?_ }
  · rw [DoorIntercom.addBuild_of_exists hmatched.nodup hexists, h.buildList_eq, List.map_map,
      List.map_map]
    exact List.map_congr_left fun b' _ ↦ ((b'.merge_pointers _).2.2.2).symm
  · rw [List.map_map, List.map_congr_left fun b' _ ↦ (b'.merge_pointers (mem 3)).1]
    exact h.buildList
  · exact fun m hm ↦ ⟨(h.models m hm).record, (h.models m hm).cellList, (h.models m hm).cells⟩
  · intro b'' hb''
    obtain ⟨b', hb', rfl⟩ := List.mem_map.1 hb''
    exact hbuilds b' hb'
  · intro b'' hb''
    obtain ⟨b', hb', rfl⟩ := List.mem_map.1 hb''
    rw [(b'.merge_pointers _).2.1, (b'.merge_pointers _).2.2.1]
    exact h.known b' hb'

/-- **A build is added**, with the model that it points to. -/
theorem Loader.Holds.addBuild (h : l.Holds s ms bs)
    (hfind : bs.find? (fun b ↦ b.value.MODID = mem 3) = none)
    (hmodel : ms.find? (fun m ↦ m.value.id = mem 3) = some m) {tlist : TLinkList ℕ}
    (hrep : Represents (some tlist)
      (bs.map BuildShape.build ++ [(l.heap.builds.malloc (readBuild mem)).1])) :
    Loader.Holds
      { l with
        heap := { l.heap.mallocBuild mem (some m.model) with
          lists := l.heap.lists.set l.buildList (some tlist) } }
      { s with buildList := DoorIntercom.addBuild s.modelList s.buildList mem } ms
      (bs ++ [⟨(l.heap.builds.malloc (readBuild mem)).1, m,
        DoorIntercom.readBuild mem m.value⟩]) := by
  have hm : m ∈ ms := List.mem_of_find?_eq_some hmodel
  have hext : l.heap.Extends { l.heap.mallocBuild mem (some m.model) with
      lists := l.heap.lists.set l.buildList (some tlist) } l.buildList :=
    ⟨fun _ _ hne hload ↦ (Region.load_set_of_ne hne _).trans hload, fun _ _ hload ↦ hload,
      fun _ _ hload ↦ hload⟩
  have hexists : s.buildList.find? (fun build ↦ build.MODID = mem 3) = none := by
    rw [h.find?_buildList, hfind, Option.map_none]
  have hvalue : s.modelList.find? (fun model ↦ model.id = mem 3) = some m.value := by
    rw [h.find?_modelList, hmodel, Option.map_some]
  obtain ⟨hbuild, -⟩ := List.nodup_cons.1 h.nodup_lists
  simp only [List.mem_cons, not_or, List.mem_map, not_exists, not_and] at hbuild
  refine { h with
    buildList_eq := ?_, modelList := ?_, buildList := ?_, models := ?_, builds := ?_, known := ?_ }
  · rw [addBuild_of_not_exists hexists, hvalue, h.buildList_eq, List.map_append]
    rfl
  · exact hext.holdsList (Ne.symm hbuild.1) h.modelList
  · rw [List.map_append]
    exact h.buildList.set hrep
  · exact fun m' hm' ↦ (h.models m' hm').mono (hbuild.2 m' hm') hext
  · intro b hb
    rcases List.mem_append.1 hb with hb | hb
    · have hload := h.builds b hb
      exact (Region.load_set_of_ne (Region.ne_malloc_of_load hload (readBuild mem)) _).trans
        (Region.load_malloc_of_load hload (readBuild mem))
    · rw [List.mem_singleton.1 hb]
      exact Region.load_set_self (Region.load_malloc_self (readBuild mem)) _
  · intro b hb
    rcases List.mem_append.1 hb with hb | hb
    · exact h.known b hb
    · rw [List.mem_singleton.1 hb]
      exact ⟨hm, rfl⟩

/-- **A `BuildList` element is loaded.** -/
theorem Loader.Holds.exists_addBuild (h : l.Holds s ms bs) (hmatched : s.Matched) (mem : Mem) :
    ∃ heap' bs', Linked.addBuild l.buildList l.modelList mem l.heap = .ok heap' ∧
      Loader.Holds { l with heap := heap' }
        { s with buildList := DoorIntercom.addBuild s.modelList s.buildList mem } ms bs' := by
  cases hfind : bs.find? fun b ↦ b.value.MODID = mem 3 with
  | some b => exact ⟨_, _, h.addBuild_of_exists hfind, h.mergeBuild hmatched hfind⟩
  | none =>
    cases hmodel : ms.find? fun m ↦ m.value.id = mem 3 with
    | some m =>
      have hfresh : (l.heap.builds.malloc (readBuild mem)).1 ∉ bs.map BuildShape.build :=
        fun hin ↦ by
          obtain ⟨b, hb, heq⟩ := List.mem_map.1 hin
          exact Region.ne_malloc_of_load (h.builds b hb) (readBuild mem) heq
      have hlength : (bs.map BuildShape.build).length + 1 < 2 ^ 31 := by
        have hle := hmatched.length_le
        rw [h.buildList_eq, List.length_map] at hle
        rw [List.length_map]
        omega
      have hlist : (l.heap.mallocBuild mem (some m.model)).HoldsList l.buildList
          (bs.map BuildShape.build) := h.buildList
      have happend := hlist.appendNode (h.nodup_MODID hmatched).of_map hfresh
      rw [if_pos hlength] at happend
      obtain ⟨tlist, hok, hrep⟩ := happend
      exact ⟨_, _, (h.addBuild_of_model hfind hmodel).trans hok, h.addBuild hfind hmodel hrep⟩
    | none =>
      refine ⟨_, bs, h.addBuild_of_no_model hfind hmodel, ?_⟩
      have hexists : s.buildList.find? (fun build ↦ build.MODID = mem 3) = none := by
        rw [h.find?_buildList, hfind, Option.map_none]
      have hvalue : s.modelList.find? (fun model ↦ model.id = mem 3) = none := by
        rw [h.find?_modelList, hmodel, Option.map_none]
      rw [addBuild_of_not_exists hexists, hvalue, Option.map_none, Option.toList_none,
        List.append_nil]
      exact h.frame (l.heap.extends_builds _ _) h.createList_notMem fun b hb ↦ by
        rw [Region.load_malloc_of_load (h.builds b hb), h.builds b hb]

end Builds

/-! ### The loop -/

section Run

variable {l l' : Loader} {s s' : DoorIntercom.Loader} {ms : List ModelShape}
  {bs : List BuildShape} {junk : Junk} {curNode : XmlNode}

theorem loadNode_modol (hn : curNode.name = "Modol") :
    loadNode junk curNode l =
      (loadModel junk curNode l.modelList l.heap).map fun heap ↦ { l with heap } := by
  rw [loadNode, hn]
  cases loadModel junk curNode l.modelList l.heap <;> rfl

theorem loadNode_buildList (hn : curNode.name = "BuildList") {r : Mem × ℕ}
    (hr : fillInfo buildInfo curNode 0 1 junk .zero = .ok r) :
    loadNode junk curNode l =
      (addBuild l.buildList l.modelList r.1 l.heap).map fun heap ↦ { l with heap } := by
  rw [loadNode, hn, hr]
  change Except.bind (addBuild l.buildList l.modelList r.1 l.heap) _ = _
  cases addBuild l.buildList l.modelList r.1 l.heap <;> rfl

/-- Elements that are not in a list have one of the other places among the names. -/
theorem idxOf_areaName (hmodol : curNode.name ≠ "Modol") (hbuild : curNode.name ≠ "BuildList") :
    ∃ i, areaName.idxOf curNode.name = i + 2 := by
  refine ⟨areaName.tail.tail.idxOf curNode.name, ?_⟩
  rw [areaName, List.idxOf_cons_ne _ hmodol.symm, List.idxOf_cons_ne _ hbuild.symm]
  rfl

/-- The other elements do not look at the lists. -/
theorem value_loadNode_other (hmodol : curNode.name ≠ "Modol")
    (hbuild : curNode.name ≠ "BuildList") (junk : Junk) (s : DoorIntercom.Loader) :
    DoorIntercom.loadNode junk curNode s =
      (DoorIntercom.loadNode junk curNode ⟨s.mem, [], [], s.netItemIndex⟩).map fun t ↦
        { s with mem := t.mem, netItemIndex := t.netItemIndex } := by
  obtain ⟨i, hi⟩ := idxOf_areaName hmodol hbuild
  rw [DoorIntercom.loadNode, DoorIntercom.loadNode, hi]
  -- the guards, the net items, and the names whose elements cannot fail
  rcases i with _ | _ | _ | _ | _ | _ | _ | i
  · cases loadGuard junk curNode 0 s.mem <;> rfl
  · cases loadGuard junk curNode 1 s.mem <;> rfl
  · cases loadGuard junk curNode 2 s.mem <;> rfl
  · cases loadNetItem junk curNode s.mem s.netItemIndex <;> rfl
  · rfl
  · rfl
  · rfl
  · rfl

theorem loadNode_other (hmodol : curNode.name ≠ "Modol") (hbuild : curNode.name ≠ "BuildList")
    (junk : Junk) (l : Loader) :
    loadNode junk curNode l =
      (liftLoad (DoorIntercom.loadNode junk curNode ⟨l.mem, [], [], l.netItemIndex⟩)).map fun t ↦
        { l with mem := t.mem, netItemIndex := t.netItemIndex } := by
  obtain ⟨i, hi⟩ := idxOf_areaName hmodol hbuild
  rw [loadNode, hi]
  cases DoorIntercom.loadNode junk curNode ⟨l.mem, [], [], l.netItemIndex⟩ <;> rfl

theorem length_modelList (h : DoorIntercom.loadNode junk curNode s = .ok s') :
    s'.modelList.length = s.modelList.length + (storedIds [curNode]).length := by
  rcases loadNode_cases h with ⟨hn, model, hmodel, rfl⟩ | ⟨hn, -, -, rfl⟩ | ⟨hn, -, rfl⟩ |
    ⟨hn, -, rfl⟩
  · cases model <;> simp [storedIds, hn, ← hmodel]
  · simp [storedIds, hn]
  · simp [storedIds, hn]
  · simp only [List.mem_cons, List.not_mem_nil, or_false, not_or] at hn
    simp [storedIds, hn]

/-- **Every element** does to the memory what it does to the lists, as long as the lengths of the
lists are `int`s. -/
theorem simulates_loadNode (h : l.Holds s ms bs) (hmatched : s.Matched) (junk : Junk)
    (curNode : XmlNode) :
    Simulates
      (s.modelList.length + (storedIds [curNode]).length < 2 ^ 31 ∧
        (curNode.name = "Modol" → items curNode.children < 2 ^ 31))
      (fun l' s' ↦ ∃ ms' bs', l'.Holds s' ms' bs')
      (loadNode junk curNode l) (DoorIntercom.loadNode junk curNode s) := by
  have hlength : s.modelList.length = ms.length := by rw [h.modelList_eq, List.length_map]
  have hlt : ms.length < 2 ^ 31 := by simpa using h.modelList.length_lt
  by_cases hmodol : curNode.name = "Modol"
  · have hstored : (storedIds [curNode]).length = (storedId curNode).toList.length := by
      cases hid : storedId curNode <;> simp [storedIds, hmodol, hid]
    rw [loadNode_modol hmodol, DoorIntercom.loadNode_modol hmodol, hlength, hstored]
    refine ((simulates_loadModel h junk curNode).map ?_).congr (by simp [hmodol])
    rintro heap' model ⟨ms', hms'⟩
    exact ⟨ms', bs, hms'⟩
  have hstored : storedIds [curNode] = [] := by simp [storedIds, hmodol]
  have hlimits : s.modelList.length + (storedIds [curNode]).length < 2 ^ 31 ∧
      (curNode.name = "Modol" → items curNode.children < 2 ^ 31) := by
    rw [hstored, hlength]
    exact ⟨hlt, fun hn ↦ absurd hn hmodol⟩
  by_cases hbuild : curNode.name = "BuildList"
  · obtain ⟨r, hr⟩ := fillInfo_isOk (by decide : ∀ key ∈ buildInfo, isNet key = false) curNode 0 1
      junk .zero
    obtain ⟨heap', bs', hok, hholds⟩ := h.exists_addBuild hmatched r.1
    rw [loadNode_buildList hbuild hr, DoorIntercom.loadNode_buildList hbuild, hr, hok]
    exact Simulates.of_ok hlimits ⟨ms, bs', hholds⟩
  · rw [value_loadNode_other hmodol hbuild junk s, loadNode_other hmodol hbuild, h.mem,
      h.netItemIndex]
    cases DoorIntercom.loadNode junk curNode ⟨s.mem, [], [], s.netItemIndex⟩ with
    | error fault => exact Simulates.of_error _ _
    | ok t => exact Simulates.of_ok hlimits ⟨ms, bs, { h with mem := rfl, netItemIndex := rfl }⟩

/-- The lengths of the lists are `int`s: that of the models after these elements, and those of the
cells of each. -/
def Countable (n : ℕ) (nodes : List XmlNode) : Prop :=
  n + (storedIds nodes).length < 2 ^ 31 ∧
    ∀ node ∈ nodes, node.name = "Modol" → items node.children < 2 ^ 31

/-- **The loop** does to the memory what it does to the lists. -/
theorem simulates_loadNodes (h : l.Holds s ms bs) (hmatched : s.Matched) (junk : Junk) (i : ℕ)
    (nodes : List XmlNode) :
    Simulates (Countable s.modelList.length nodes)
      (fun l' s' ↦ s'.Matched ∧ ∃ ms' bs', l'.Holds s' ms' bs')
      (loadNodes junk i nodes l) (DoorIntercom.loadNodes junk i nodes s) := by
  induction nodes generalizing i l s ms bs with
  | nil =>
    have hlt : s.modelList.length < 2 ^ 31 := by
      rw [h.modelList_eq]
      simpa using h.modelList.length_lt
    exact Simulates.of_ok ⟨hlt, fun _ hnode ↦ nomatch hnode⟩ ⟨hmatched, ms, bs, h⟩
  | cons curNode nodes ih =>
    have hstored : storedIds (curNode :: nodes) = storedIds [curNode] ++ storedIds nodes := by
      rw [← List.singleton_append, storedIds, List.filter_append, List.filterMap_append]
      rfl
    have hrest : ∀ l' s', DoorIntercom.loadNode (junk.at i) curNode s = .ok s' →
        (∃ ms' bs', l'.Holds s' ms' bs') →
          Simulates (Countable (s.modelList.length + (storedIds [curNode]).length) nodes)
            (fun l'' s'' ↦ s''.Matched ∧ ∃ ms'' bs'', l''.Holds s'' ms'' bs'')
            (loadNodes junk (i + 1) nodes l') (DoorIntercom.loadNodes junk (i + 1) nodes s') := by
      rintro l' s' hs' ⟨ms', bs', hholds⟩
      rw [← length_modelList hs']
      exact ih hholds (hmatched.loadNode hs') (i + 1)
    refine ((simulates_loadNode h hmatched (junk.at i) curNode).bind hrest).congr ?_
    simp only [Countable, hstored, List.length_append, List.forall_mem_cons]
    constructor
    · rintro ⟨⟨-, hitems⟩, hlt, hrest⟩
      exact ⟨by omega, hitems, hrest⟩
    · rintro ⟨hlt, hitems, hrest⟩
      exact ⟨⟨by omega, hitems⟩, by omega, hrest⟩

end Run

/-! ### The models of the builds -/

/-- The builds of the list have different numbers and different models, and the model of each is in
the list of the models and has its number. -/
structure Loader.ModelsSeparate (l : Loader) (builds models : List ℕ) : Prop where
  buildList : l.heap.HoldsList l.buildList builds
  modelList : l.heap.HoldsList l.modelList models
  nodup_MODID : (builds.map l.heap.MODID).Nodup
  nodup_model : (builds.map l.heap.model).Nodup
  known : ∀ build ∈ builds, ∃ model ∈ models, l.heap.model build = some model ∧
    ∃ record, l.heap.models.load model = some record ∧ l.heap.MODID build = some record.id

section Separate

variable {l : Loader} {s : DoorIntercom.Loader} {ms : List ModelShape} {bs : List BuildShape}

/-- The model of a build has its number. -/
theorem Loader.Holds.id_eq (h : l.Holds s ms bs) (hmatched : s.Matched) {b : BuildShape}
    (hb : b ∈ bs) : b.model.value.id = b.value.MODID := by
  rw [← (h.known b hb).2]
  exact (hmatched.model b.value (h.buildList_eq ▸ List.mem_map_of_mem hb)).2

/-- The models of the builds are different ones of the list. -/
theorem Loader.Holds.nodup_model (h : l.Holds s ms bs) (hmatched : s.Matched) :
    (bs.map BuildShape.model).Nodup := by
  have hids : (bs.map BuildShape.model).map (fun m ↦ m.value.id) =
      s.buildList.map Build.MODID := by
    rw [h.buildList_eq, List.map_map, List.map_map]
    exact List.map_congr_left fun b hb ↦ h.id_eq hmatched hb
  refine List.Nodup.of_map (fun m ↦ m.value.id) ?_
  rw [hids]
  exact hmatched.nodup

/-- **The builds are separate.** -/
theorem Loader.Holds.modelsSeparate (h : l.Holds s ms bs) (hmatched : s.Matched) :
    l.ModelsSeparate (bs.map BuildShape.build) (ms.map ModelShape.model) where
  buildList := h.buildList
  modelList := h.modelList
  nodup_MODID := h.nodup_MODID hmatched
  nodup_model := by
    have hmodels : (bs.map BuildShape.build).map l.heap.model =
        ((bs.map BuildShape.model).map ModelShape.model).map some := by
      rw [List.map_map, List.map_map, List.map_map]
      refine List.map_congr_left fun b hb ↦ ?_
      rw [Function.comp_apply, Heap.model, h.builds b hb]
      rfl
    have hinj : ∀ m ∈ bs.map BuildShape.model, ∀ m' ∈ bs.map BuildShape.model,
        m.model = m'.model → m = m' := by
      have hknown : ∀ m ∈ bs.map BuildShape.model, m ∈ ms := fun m hm ↦ by
        obtain ⟨b, hb, rfl⟩ := List.mem_map.1 hm
        exact (h.known b hb).1
      exact fun m hm m' hm' ↦
        List.inj_on_of_nodup_map h.nodup_models (hknown m hm) (hknown m' hm')
    rw [hmodels]
    exact ((h.nodup_model hmatched).map_on hinj).map (Option.some_injective _)
  known := by
    intro build hbuild
    obtain ⟨b, hb, rfl⟩ := List.mem_map.1 hbuild
    refine ⟨b.model.model, List.mem_map_of_mem (h.known b hb).1, ?_, _,
      (h.models b.model (h.known b hb).1).record, ?_⟩
    · rw [Heap.model, h.builds b hb]
      rfl
    · rw [Heap.MODID, h.builds b hb, h.id_eq hmatched hb]
      rfl

end Separate

/-! ### The whole document -/

/-- The memory before the loop. -/
theorem holds_start : Loader.start.Holds .start [] [] := by
  let empty : Heap := ⟨.empty, .empty, .empty, .empty⟩
  have hbuild : empty.createList.2.HoldsList empty.createList.1 [] := empty.holdsList_createList
  have hne := hbuild.ne_createList
  refine ⟨rfl, rfl, rfl, rfl, empty.createList.2.holdsList_createList, ?_, ?_, ?_, ?_, ?_, ?_, ?_⟩
  · exact (empty.createList.2.extends_createList _).holdsList hne hbuild
  · exact fun m hm ↦ nomatch hm
  · exact fun b hb ↦ nomatch hb
  · exact fun b hb ↦ nomatch hb
  · exact List.nodup_nil
  · exact List.nodup_cons.2 ⟨fun hin ↦ hne (List.mem_singleton.1 hin), List.nodup_singleton _⟩
  · exact List.nodup_nil

theorem matched_start : DoorIntercom.Loader.start.Matched :=
  ⟨List.nodup_nil, fun _ hbuild ↦ nomatch hbuild⟩

/-- **Loading a document**: the memory holds what is loaded. -/
theorem simulates_start (junk : Junk) (nodes : List XmlNode) :
    Simulates (Countable 0 nodes) (fun l s ↦ s.Matched ∧ ∃ ms bs, l.Holds s ms bs)
      (loadNodes junk 0 nodes .start) (DoorIntercom.loadNodes junk 0 nodes .start) :=
  simulates_loadNodes holds_start matched_start junk 0 nodes

/-- **When a document is loaded** into memory. -/
theorem loadNodes_isOk_iff (junk : Junk) (nodes : List XmlNode) :
    (∃ l, loadNodes junk 0 nodes .start = .ok l) ↔
      Countable 0 nodes ∧ (∀ node ∈ nodes, Loadable node) ∧ netItems nodes ≤ 3 := by
  have hvalue := DoorIntercom.loadNodes_isOk_iff junk 0 nodes (s := .start) (by decide)
  rw [(simulates_start junk nodes).isOk_iff, hvalue]
  rw [show DoorIntercom.Loader.start.netItemIndex + netItems nodes = netItems nodes from
    Nat.zero_add _]

end Linked

end DoorIntercom
