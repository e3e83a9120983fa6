import DoorIntercom.Area.GetAreaInfo
import DoorIntercom.Area.LinkList
import DoorIntercom.Lib.Region

/-!
# The configuration in memory

`getAreaInfo` once more, with the objects that it allocates: the models, builds and cells, and the
lists of `LinkList.c` that they are in. A pointer is the name of an object in the region of its
type. `Loader.Holds` reads the lists of `Area.GetAreaInfo` off the memory. The block of the area is
that of `arm64-v8a`.

A build points to the first model with its number, and different models may have the same number.

`malloc` is taken to succeed. The pointers `next` are part of the lists, also those of nodes that
are freed: what is checked is that an object is allocated when its fields are used and when it is
freed.
-/

namespace DoorIntercom

open FallibleRun

namespace Linked

/-! ### Memory -/

/-- Where loading and freeing go wrong. -/
inductive MemoryFault
  | load (fault : LoadFault)
  | list (fault : ListFault)
  /-- A use or a `free` of what is not allocated. -/
  | dangling
  /-- A `length` that leaves the type `int`. -/
  | length
  deriving DecidableEq, Repr

/-- A `struct Model`. -/
structure ModelRecord where
  id : UChar
  cellList : ℕ
  deriving DecidableEq, Repr

/-- A `struct Build`; `model` is null before it is assigned. -/
structure BuildRecord where
  IPID : UChar
  buildBegin : UChar
  buildEnd : UChar
  MODID : UChar
  model : Option ℕ
  deriving DecidableEq, Repr

/-- The objects of the configuration. -/
structure Heap where
  lists : Region (TLinkList ℕ)
  cells : Region Cell
  models : Region ModelRecord
  builds : Region BuildRecord

section Checks

variable {α : Type}

/-- An access that needs an allocated object. -/
def orDangling : Option α → Except MemoryFault α
  | some a => .ok a
  | none => .error .dangling

/-- An access to the document or the area. -/
def liftLoad : Except LoadFault α → Except MemoryFault α
  | .ok a => .ok a
  | .error fault => .error (.load fault)

@[simp] theorem orDangling_some (a : α) : orDangling (some a) = .ok a := rfl

end Checks

namespace Heap

variable (heap : Heap)

/-- `linklist_create`. -/
def createList : ℕ × Heap :=
  let list := heap.lists.malloc ((linklistCreate fun _ ↦ none).get rfl)
  (list.1, { heap with lists := list.2 })

/-- `linklist_insert` at the length of the list. -/
def appendNode (list node : ℕ) : Except MemoryFault Heap := do
  let tlist ← orDangling (heap.lists.load list)
  if tlist.length.toInt + 1 < 2 ^ 31 then
    let tlist' ← orDangling
      (linklistInsert (some tlist) (linklistLength (some tlist)) (some node)).2
    let lists ← orDangling (heap.lists.store list tlist')
    return { heap with lists }
  else throw .length

/-- The nodes that a loop with `linklist_get` from 0 to the length gets. -/
def listNodes (list : ℕ) : Except MemoryFault (List (Option ℕ)) := do
  let tlist ← orDangling (heap.lists.load list)
  return (List.range (linklistLength (some tlist)).toInt.toNat).map fun i ↦
    linklistGet (some tlist) (BitVec.ofNat 32 i)

end Heap

/-- A loop that stops at the first node with a number. -/
def search (number : ℕ → Option UChar) (MODID : UChar) :
    List (Option ℕ) → Except MemoryFault (Option ℕ)
  | [] => .ok none
  | node :: nodes => do
    let p ← orDangling node
    let id ← orDangling (number p)
    if id = MODID then return some p else search number MODID nodes

/-! ### The elements of the document -/

/-- The cells of the `Item`s among the nodes from the `i`-th on. -/
def loadCells (junk : Junk) (cellList : ℕ) : ℕ → List XmlNode → Heap → Except MemoryFault Heap
  | _, [], heap => .ok heap
  | i, subNode :: rest, heap =>
    if subNode.name = "Item" then do
      let r ← liftLoad (fillInfo cellInfo subNode 0 1 (junk.at i) .zero)
      let cell := heap.cells.malloc (readCell r.1)
      let heap ← { heap with cells := cell.2 }.appendNode cellList cell.1
      loadCells junk cellList (i + 1) rest heap
    else loadCells junk cellList (i + 1) rest heap

/-- `Modol`. -/
def loadModel (junk : Junk) (curNode : XmlNode) (modelList : ℕ) (heap : Heap) :
    Except MemoryFault Heap :=
  match curNode.children with
  | [] => do
    -- the model is allocated all the same, and freed without being used
    let model := heap.models.malloc ⟨0, 0⟩
    let models ← orDangling (model.2.free model.1)
    return { heap with models }
  | subNode :: rest => do
    let id ← liftLoad (loadModelId subNode)
    let cellList := heap.createList
    let model := cellList.2.models.malloc ⟨id, cellList.1⟩
    let heap ← loadCells junk cellList.1 0 (subNode :: rest) { cellList.2 with models := model.2 }
    heap.appendNode modelList model.1

/-- The record of a build, without its model. -/
def readBuild (mem : Mem) : BuildRecord := ⟨mem 0, mem 1, mem 2, mem 3, none⟩

/-- The build of an element is merged, or gets its model, or is not used and not freed. -/
def addBuild (buildList modelList : ℕ) (mem : Mem) (heap : Heap) : Except MemoryFault Heap := do
  let record := readBuild mem
  let build := heap.builds.malloc record
  let builds := build.2
  let exists? ← search (fun p ↦ (builds.load p).map BuildRecord.MODID) record.MODID
    (← heap.listNodes buildList)
  match exists? with
  | some p =>
    let existBuild ← orDangling (builds.load p)
    let builds ← orDangling
      (builds.store p { existBuild with buildEnd := existBuild.buildEnd + 1 })
    let builds ← orDangling (builds.free build.1)
    return { heap with builds }
  | none =>
    let model? ← search (fun p ↦ (heap.models.load p).map ModelRecord.id) record.MODID
      (← heap.listNodes modelList)
    match model? with
    | some model =>
      let builds ← orDangling (builds.store build.1 { record with model := some model })
      { heap with builds }.appendNode buildList build.1
    | none => return { heap with builds }

/-- The variables of the loop. -/
structure Loader where
  mem : Mem
  heap : Heap
  buildList : ℕ
  modelList : ℕ
  netItemIndex : ℕ

/-- The variables before the loop. -/
def Loader.start : Loader :=
  let buildList := Heap.createList ⟨.empty, .empty, .empty, .empty⟩
  let modelList := buildList.2.createList
  ⟨.zero, modelList.2, buildList.1, modelList.1, 0⟩

/-- One top-level element. -/
def loadNode (junk : Junk) (curNode : XmlNode) (s : Loader) : Except MemoryFault Loader :=
  match areaName.idxOf curNode.name with
  | 0 => do
    let heap ← loadModel junk curNode s.modelList s.heap
    return { s with heap }
  | 1 => do
    let r ← liftLoad (fillInfo buildInfo curNode 0 1 junk .zero)
    let heap ← addBuild s.buildList s.modelList r.1 s.heap
    return { s with heap }
  | _ => do
    -- the other elements do not look at the lists
    let t ← liftLoad (DoorIntercom.loadNode junk curNode ⟨s.mem, [], [], s.netItemIndex⟩)
    return { s with mem := t.mem, netItemIndex := t.netItemIndex }

/-- The top-level elements from the `i`-th on. -/
def loadNodes (junk : Junk) : ℕ → List XmlNode → Loader → Except MemoryFault Loader
  | _, [], s => .ok s
  | i, curNode :: rest, s => do
    let s ← loadNode (junk.at i) curNode s
    loadNodes junk (i + 1) rest s

/-- An area: its block of memory, with the pointer `buildList` apart. -/
structure Area where
  mem : Mem
  buildList : ℕ

/-- `getAreaInfo`: the area, if the document has one, and the memory. -/
def getAreaInfo (junk : Junk) (root : Option XmlNode) :
    Except MemoryFault (Option (Area × Heap)) :=
  match root with
  | none => .ok none
  | some root =>
    if root.name = "NETCFG" then do
      let s ← loadNodes junk 0 root.children .start
      -- `linklist_destroy(modelList)` frees the list and not its nodes
      let lists ← orDangling (s.heap.lists.free s.modelList)
      return some (⟨s.mem, s.buildList⟩, { s.heap with lists })
    else .ok none

/-! ### Lists in memory -/

section Lists

variable {heap heap' : Heap} {list node : ℕ} {nodes : List ℕ}

/-- A list that represents a sequence of nodes. -/
def Heap.HoldsList (heap : Heap) (list : ℕ) (nodes : List ℕ) : Prop :=
  ∃ tlist, heap.lists.load list = some tlist ∧ Represents (some tlist) nodes

/-- What is allocated is as it was, the builds and a list aside. -/
structure Heap.Extends (heap heap' : Heap) (changed : ℕ) : Prop where
  lists : ∀ p tlist, p ≠ changed → heap.lists.load p = some tlist →
    heap'.lists.load p = some tlist
  cells : ∀ p cell, heap.cells.load p = some cell → heap'.cells.load p = some cell
  models : ∀ p record, heap.models.load p = some record → heap'.models.load p = some record

theorem Heap.Extends.holdsList (h : heap.Extends heap' node) (hne : list ≠ node)
    (hlist : heap.HoldsList list nodes) : heap'.HoldsList list nodes := by
  obtain ⟨tlist, hload, hrep⟩ := hlist
  exact ⟨tlist, h.lists list tlist hne hload, hrep⟩

theorem Heap.Extends.trans {heap'' : Heap} (h : heap.Extends heap' list)
    (h' : heap'.Extends heap'' list) : heap.Extends heap'' list where
  lists p tlist hne hload := h'.lists p tlist hne (h.lists p tlist hne hload)
  cells p cell hload := h'.cells p cell (h.cells p cell hload)
  models p record hload := h'.models p record (h.models p record hload)

/-- A list represents one sequence. -/
theorem Heap.HoldsList.unique {nodes' : List ℕ} (h : heap.HoldsList list nodes)
    (h' : heap.HoldsList list nodes') : nodes = nodes' := by
  obtain ⟨tlist, hload, tlist₁, hsome, hchain, -⟩ := h
  obtain ⟨tlist', hload', tlist₂, hsome', hchain', -⟩ := h'
  cases hsome
  cases hsome'
  cases hload.symm.trans hload'
  exact hchain.unique hchain'

theorem Heap.HoldsList.length_lt (h : heap.HoldsList list nodes) : nodes.length < 2 ^ 31 := by
  obtain ⟨tlist, -, hrep⟩ := h
  exact_mod_cast hrep.length_lt

/-- **A loop over a list** gets its nodes. -/
theorem Heap.HoldsList.listNodes (h : heap.HoldsList list nodes) :
    heap.listNodes list = .ok (nodes.map some) := by
  obtain ⟨tlist, hload, hrep⟩ := h
  rw [Heap.listNodes, hload, ← map_linklistGet_range hrep]
  rfl

/-- A new list is empty. -/
theorem Heap.holdsList_createList (heap : Heap) :
    heap.createList.2.HoldsList heap.createList.1 [] :=
  ⟨_, Region.load_malloc_self _, represents_linklistCreate _⟩

theorem Heap.extends_createList (heap : Heap) (changed : ℕ) :
    heap.Extends heap.createList.2 changed where
  lists _ _ _ hload := Region.load_malloc_of_load hload _
  cells _ _ hload := hload
  models _ _ hload := hload

/-- The name of a new list is new. -/
theorem Heap.HoldsList.ne_createList (h : heap.HoldsList list nodes) :
    list ≠ heap.createList.1 := by
  obtain ⟨tlist, hload, -⟩ := h
  exact Region.ne_malloc_of_load hload ((linklistCreate fun _ ↦ none).get rfl)

/-- **A node is added at the end**, if the length can count it. -/
theorem Heap.HoldsList.appendNode (h : heap.HoldsList list nodes) (hnodup : nodes.Nodup)
    (hfresh : node ∉ nodes) :
    if nodes.length + 1 < 2 ^ 31 then
      ∃ tlist', heap.appendNode list node =
          .ok { heap with lists := heap.lists.set list (some tlist') } ∧
        Represents (some tlist') (nodes ++ [node])
    else heap.appendNode list node = .error .length := by
  obtain ⟨tlist, hload, hrep⟩ := h
  have hbound := hrep.length_lt
  obtain ⟨_, hsome, -, hlength⟩ := id hrep
  cases hsome
  have hroom : tlist.length.toInt + 1 < 2 ^ 31 ↔ nodes.length + 1 < 2 ^ 31 := by omega
  have hstore := Region.store_of_load hload
  split_ifs with hlt
  · have hpos : 0 ≤ (linklistLength (some tlist)).toInt := by
      rw [linklistLength]
      omega
    obtain ⟨tlist', hinsert, hchain, hlength'⟩ := hrep.insert hnodup hfresh hpos
    refine ⟨tlist', ?_, tlist', rfl, ?_, ?_⟩
    · simp only [Heap.appendNode, hload, orDangling_some, ok_bind, if_pos (hroom.2 hlt), hinsert,
        hstore]
      rfl
    · rw [linklistLength, hlength, Int.toNat_natCast, min_self, List.insertIdx_length_self]
        at hchain
      exact hchain
    · rw [hlength'.2 hlt, List.length_append]
      rfl
  · simp only [Heap.appendNode, hload, orDangling_some, ok_bind, if_neg (hroom.not.2 hlt)]
    rfl

/-- The list that a node was added to, and the others. -/
theorem Heap.HoldsList.set {tlist : TLinkList ℕ} (h : heap.HoldsList list nodes)
    {nodes' : List ℕ} (hrep : Represents (some tlist) nodes') :
    Heap.HoldsList { heap with lists := heap.lists.set list (some tlist) } list nodes' := by
  obtain ⟨tlist₀, hload, -⟩ := h
  exact ⟨tlist, Region.load_set_self hload _, hrep⟩

theorem Heap.extends_set (heap : Heap) (list : ℕ) (tlist : Option (TLinkList ℕ)) :
    heap.Extends { heap with lists := heap.lists.set list tlist } list where
  lists _ _ hne hload := (Region.load_set_of_ne hne _).trans hload
  cells _ _ hload := hload
  models _ _ hload := hload

theorem Heap.extends_builds (heap : Heap) (builds : Region BuildRecord) (changed : ℕ) :
    heap.Extends { heap with builds } changed where
  lists _ _ _ hload := hload
  cells _ _ hload := hload
  models _ _ hload := hload

theorem Heap.extends_mallocModel (heap : Heap) (record : ModelRecord) (changed : ℕ) :
    heap.Extends { heap with models := (heap.models.malloc record).2 } changed where
  lists _ _ _ hload := hload
  cells _ _ hload := hload
  models _ _ hload := Region.load_malloc_of_load hload record

/-- A model that is allocated and freed again. -/
theorem Heap.extends_freeModel (heap : Heap) (record : ModelRecord) (changed : ℕ) :
    heap.Extends
      { heap with
        models := (heap.models.malloc record).2.set (heap.models.malloc record).1 none }
      changed where
  lists _ _ _ hload := hload
  cells _ _ hload := hload
  models _ _ hload := (Region.load_set_of_ne (Region.ne_malloc_of_load hload record) _).trans
    (Region.load_malloc_of_load hload record)

/-- **A search** finds the first node with the number. -/
theorem search_map_some {σ : Type} {number : ℕ → Option UChar} {shapes : List σ} {p : σ → ℕ}
    {id : σ → UChar} (h : ∀ x ∈ shapes, number (p x) = some (id x)) (MODID : UChar) :
    search number MODID ((shapes.map p).map some) =
      .ok ((shapes.find? fun x ↦ id x = MODID).map p) := by
  induction shapes with
  | nil => rfl
  | cons x shapes ih =>
    rw [List.map_cons, List.map_cons, search, orDangling_some, ok_bind,
      h x List.mem_cons_self, orDangling_some, ok_bind]
    by_cases hid : id x = MODID
    · rw [if_pos hid, List.find?_cons_of_pos (by simpa using hid)]
      rfl
    · rw [if_neg hid, List.find?_cons_of_neg (by simpa using hid)]
      exact ih fun y hy ↦ h y (List.mem_cons_of_mem _ hy)

end Lists

/-! ### What the memory holds -/

/-- A model in memory: its pointers, and what it stands for. -/
structure ModelShape where
  model : ℕ
  cellList : ℕ
  cells : List ℕ
  value : Model

/-- A build in memory. -/
structure BuildShape where
  build : ℕ
  model : ModelShape
  value : Build

/-- The number of a build. -/
def Heap.MODID (heap : Heap) (build : ℕ) : Option UChar :=
  (heap.builds.load build).map BuildRecord.MODID

/-- The model that a build points to. -/
def Heap.model (heap : Heap) (build : ℕ) : Option ℕ :=
  (heap.builds.load build).bind BuildRecord.model

/-- The memory holds a model. -/
structure Heap.HoldsModel (heap : Heap) (m : ModelShape) : Prop where
  record : heap.models.load m.model = some ⟨m.value.id, m.cellList⟩
  cellList : heap.HoldsList m.cellList m.cells
  cells : m.cells.map heap.cells.load = m.value.cellList.map some

/-- The record of a build with a model. -/
def BuildShape.record (b : BuildShape) : BuildRecord :=
  ⟨b.value.IPID, b.value.buildBegin, b.value.buildEnd, b.value.MODID, some b.model.model⟩

/-- **The memory holds the lists** `s` of a loader, with the models `ms` and the builds `bs`. Two
builds may point to one model; the models, their lists and their cells are different objects. -/
structure Loader.Holds (l : Loader) (s : DoorIntercom.Loader) (ms : List ModelShape)
    (bs : List BuildShape) : Prop where
  mem : l.mem = s.mem
  netItemIndex : l.netItemIndex = s.netItemIndex
  modelList_eq : s.modelList = ms.map ModelShape.value
  buildList_eq : s.buildList = bs.map BuildShape.value
  modelList : l.heap.HoldsList l.modelList (ms.map ModelShape.model)
  buildList : l.heap.HoldsList l.buildList (bs.map BuildShape.build)
  models : ∀ m ∈ ms, l.heap.HoldsModel m
  builds : ∀ b ∈ bs, l.heap.builds.load b.build = some b.record
  known : ∀ b ∈ bs, b.model ∈ ms ∧ b.value.model = b.model.value
  nodup_models : (ms.map ModelShape.model).Nodup
  nodup_lists : (l.buildList :: l.modelList :: ms.map ModelShape.cellList).Nodup
  nodup_cells : (ms.flatMap ModelShape.cells).Nodup

section Holds

variable {heap heap' : Heap} {m : ModelShape} {changed : ℕ}

/-- The cells of a model are allocated. -/
theorem Heap.HoldsModel.exists_load (h : heap.HoldsModel m) {p : ℕ} (hp : p ∈ m.cells) :
    ∃ cell, heap.cells.load p = some cell := by
  have hsome : heap.cells.load p ∈ m.value.cellList.map some := by
    rw [← h.cells]
    exact List.mem_map_of_mem hp
  obtain ⟨cell, -, hload⟩ := List.mem_map.1 hsome
  exact ⟨cell, hload.symm⟩

theorem Heap.HoldsModel.mono (h : heap.HoldsModel m) (hne : m.cellList ≠ changed)
    (hext : heap.Extends heap' changed) : heap'.HoldsModel m where
  record := hext.models _ _ h.record
  cellList := hext.holdsList hne h.cellList
  cells := by
    rw [← h.cells]
    refine List.map_congr_left fun p hp ↦ ?_
    obtain ⟨cell, hload⟩ := h.exists_load hp
    rw [hext.cells p cell hload, hload]

end Holds

end Linked

end DoorIntercom
