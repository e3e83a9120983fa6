import DoorIntercom.Area.LinkedLoading
import DoorIntercom.Lib.WhileLoop
import Mathlib.Data.List.Flatten

/-!
# Freeing the configuration

`freeArea` takes every build from the front of its list, frees the cells of its model, the list of
those, the model and the build, and at the end the list of the builds. A model that two builds point
to would be freed twice, and the second time its list would be looked at after it was freed.

What is loaded has no such model (`Loader.Holds.holdsBuilds`), so all that the area leads to is
freed, once (`Heap.HoldsBuilds.freesOnce`). `neverShares_iff` says of which documents this can be
said.

The block of the area itself and the models without a build are not looked at here: the first is
freed at the end, and nothing leads to the others any more.
-/

namespace DoorIntercom

open FallibleRun

namespace Linked

/-! ### The functions -/

/-- What `freeArea` frees, the lists aside. -/
inductive Object
  | build (p : ℕ)
  | model (p : ℕ)
  | cell (p : ℕ)
  deriving DecidableEq, Repr

/-- The memory while the area is freed, with what was freed and the lists that were destroyed, as
they were then. -/
structure Freeing where
  heap : Heap
  freed : List Object
  destroyed : List (ℕ × TLinkList ℕ)

/-- An access by a function of `LinkList.c`. -/
def liftList {α : Type} : Except ListFault α → Except MemoryFault α
  | .ok a => .ok a
  | .error fault => .error (.list fault)

/-- `linklist_length(list) > 0`. -/
def Heap.nonempty (heap : Heap) (list : ℕ) : Except MemoryFault Bool := do
  let tlist ← orDangling (heap.lists.load list)
  return decide (0 < (linklistLength (some tlist)).toInt)

/-- `linklist_deleate(list, 0)`: the node that is used then, and the memory. -/
def Heap.deleateFirst (heap : Heap) (list : ℕ) : Except MemoryFault (ℕ × Heap) := do
  let tlist ← orDangling (heap.lists.load list)
  let r ← liftList (linklistDeleate (some tlist) 0#32)
  let node ← orDangling r.1
  let tlist' ← orDangling r.2
  let lists ← orDangling (heap.lists.store list tlist')
  return (node, { heap with lists })

/-- `linklist_destroy`. -/
def Freeing.destroy (s : Freeing) (list : ℕ) : Except MemoryFault Freeing := do
  let tlist ← orDangling (s.heap.lists.load list)
  let lists ← orDangling (s.heap.lists.free list)
  return { s with heap := { s.heap with lists }, destroyed := s.destroyed ++ [(list, tlist)] }

/-- One turn of the loop over the cells of a model. -/
def freeCell (cellList : ℕ) (s : Freeing) : Except MemoryFault (Option Freeing) := do
  let more ← s.heap.nonempty cellList
  if more then
    let cell ← s.heap.deleateFirst cellList
    let cells ← orDangling (cell.2.cells.free cell.1)
    return some { s with
      heap := { cell.2 with cells }
      freed := s.freed ++ [.cell cell.1] }
  else return none

section Peel

theorem orDangling_eq_ok {α : Type} {x : Option α} {a : α} : orDangling x = .ok a ↔ x = some a := by
  cases x <;> simp [orDangling]

/-- Taking a node out changes the list only. -/
theorem Heap.deleateFirst_eq_ok {heap : Heap} {list : ℕ} {r : ℕ × Heap}
    (h : heap.deleateFirst list = .ok r) : ∃ lists, r.2 = { heap with lists } := by
  obtain ⟨_, -, h⟩ := bind_eq_ok.1 h
  obtain ⟨_, -, h⟩ := bind_eq_ok.1 h
  obtain ⟨_, -, h⟩ := bind_eq_ok.1 h
  obtain ⟨_, -, h⟩ := bind_eq_ok.1 h
  obtain ⟨lists, -, h⟩ := bind_eq_ok.1 h
  exact ⟨lists, by cases h; rfl⟩

/-- A turn frees a cell, and leaves the builds as they are. -/
theorem freeCell_eq_some {cellList : ℕ} {s s' : Freeing}
    (h : freeCell cellList s = .ok (some s')) :
    s'.heap.cells.size < s.heap.cells.size ∧ s'.heap.builds = s.heap.builds := by
  obtain ⟨more, -, h⟩ := bind_eq_ok.1 h
  cases more with
  | false => cases h
  | true =>
    obtain ⟨cell, hcell, h⟩ := bind_eq_ok.1 h
    obtain ⟨cells, hcells, h⟩ := bind_eq_ok.1 h
    obtain ⟨lists, hlists⟩ := Heap.deleateFirst_eq_ok hcell
    cases h
    rw [orDangling_eq_ok, hlists] at hcells
    rw [hlists]
    exact ⟨Region.size_lt_of_free hcells, rfl⟩

end Peel

/-- `while(linklist_length(build->model->cellList) > 0)`. -/
def cellLoop (cellList : ℕ) : WhileLoop MemoryFault Freeing where
  turn := freeCell cellList
  measure s := s.heap.cells.size
  decreasing _ _ h := (freeCell_eq_some h).1

/-- One turn of the loop over the builds. -/
def freeBuild (buildList : ℕ) (s : Freeing) : Except MemoryFault (Option Freeing) := do
  let more ← s.heap.nonempty buildList
  if more then
    let build ← s.heap.deleateFirst buildList
    let record ← orDangling (build.2.builds.load build.1)
    let model ← orDangling record.model
    let modelRecord ← orDangling (build.2.models.load model)
    let s ← (cellLoop modelRecord.cellList).run { s with heap := build.2 }
    let s ← s.destroy modelRecord.cellList
    let models ← orDangling (s.heap.models.free model)
    let builds ← orDangling (s.heap.builds.free build.1)
    return some { s with
      heap := { s.heap with models, builds }
      freed := s.freed ++ [.model model, .build build.1] }
  else return none

/-- A turn frees a build. -/
theorem freeBuild_eq_some {buildList : ℕ} {s s' : Freeing}
    (h : freeBuild buildList s = .ok (some s')) : s'.heap.builds.size < s.heap.builds.size := by
  obtain ⟨more, -, h⟩ := bind_eq_ok.1 h
  cases more with
  | false => cases h
  | true =>
    obtain ⟨build, hbuild, h⟩ := bind_eq_ok.1 h
    obtain ⟨record, -, h⟩ := bind_eq_ok.1 h
    obtain ⟨model, -, h⟩ := bind_eq_ok.1 h
    obtain ⟨modelRecord, -, h⟩ := bind_eq_ok.1 h
    obtain ⟨s₁, hcells, h⟩ := bind_eq_ok.1 h
    obtain ⟨s₂, hdestroy, h⟩ := bind_eq_ok.1 h
    obtain ⟨models, -, h⟩ := bind_eq_ok.1 h
    obtain ⟨builds, hbuilds, h⟩ := bind_eq_ok.1 h
    obtain ⟨lists, hlists⟩ := Heap.deleateFirst_eq_ok hbuild
    have hsame : s₁.heap.builds = s.heap.builds :=
      WhileLoop.run_invariant (I := fun t ↦ t.heap.builds = s.heap.builds)
        (fun _ _ hinv hturn ↦ (freeCell_eq_some hturn).2.trans hinv) (by rw [hlists]) hcells
    have hsame' : s₂.heap.builds = s₁.heap.builds := by
      obtain ⟨_, -, hdestroy⟩ := bind_eq_ok.1 hdestroy
      obtain ⟨_, -, hdestroy⟩ := bind_eq_ok.1 hdestroy
      cases hdestroy
      rfl
    cases h
    rw [orDangling_eq_ok, hsame', hsame] at hbuilds
    exact Region.size_lt_of_free hbuilds

/-- `while(linklist_length(area->buildList) > 0)`. -/
def buildLoop (buildList : ℕ) : WhileLoop MemoryFault Freeing where
  turn := freeBuild buildList
  measure s := s.heap.builds.size
  decreasing _ _ h := freeBuild_eq_some h

/-- `freeArea`. -/
def freeArea (area : Area) (heap : Heap) : Except MemoryFault Freeing := do
  let s ← (buildLoop area.buildList).run ⟨heap, [], []⟩
  s.destroy area.buildList

/-! ### Lists -/

section Lists

variable {heap : Heap} {s : Freeing} {list p : ℕ} {nodes : List ℕ}

theorem Heap.HoldsList.nonempty_nil (h : heap.HoldsList list []) :
    heap.nonempty list = .ok false := by
  obtain ⟨tlist, hload, _, hsome, -, hlength⟩ := h
  cases hsome
  have hzero : ¬ 0 < (linklistLength (some tlist)).toInt := by
    rw [linklistLength, hlength]
    decide
  rw [Heap.nonempty, hload, orDangling_some, ok_bind, decide_eq_false hzero]
  rfl

theorem Heap.HoldsList.nonempty_cons (h : heap.HoldsList list (p :: nodes)) :
    heap.nonempty list = .ok true := by
  obtain ⟨tlist, hload, _, hsome, -, hlength⟩ := h
  cases hsome
  have hpos : 0 < (linklistLength (some tlist)).toInt := by
    rw [linklistLength, hlength, List.length_cons]
    omega
  rw [Heap.nonempty, hload, orDangling_some, ok_bind, decide_eq_true hpos]
  rfl

/-- **The first node** is taken out. -/
theorem Heap.HoldsList.deleateFirst (h : heap.HoldsList list (p :: nodes))
    (hnodup : (p :: nodes).Nodup) :
    ∃ tlist, heap.deleateFirst list =
        .ok (p, { heap with lists := heap.lists.set list (some tlist) }) ∧
      Represents (some tlist) nodes := by
  obtain ⟨tlist, hload, hrep⟩ := h
  have hpos : (0#32).toInt ≠ ((p :: nodes).length : ℤ) := by
    rw [List.length_cons, show (0#32).toInt = 0 from rfl]
    omega
  obtain ⟨list', hdeleate, hrep'⟩ := (hrep.deleate hnodup).2 hpos
  obtain ⟨tlist', rfl, -⟩ := id hrep'
  refine ⟨tlist', ?_, hrep'⟩
  simp only [Heap.deleateFirst, hload, orDangling_some, ok_bind, hdeleate, liftList,
    show nodeAt (p :: nodes) 0#32 = some p from rfl, Region.store_of_load hload]
  rfl

/-- **An empty list** is destroyed. -/
theorem destroy_of_nil (h : s.heap.HoldsList list []) :
    ∃ tlist, s.destroy list = .ok
        { s with
          heap := { s.heap with lists := s.heap.lists.set list none }
          destroyed := s.destroyed ++ [(list, tlist)] } ∧
      Represents (some tlist) [] := by
  obtain ⟨tlist, hload, hrep⟩ := h
  refine ⟨tlist, ?_, hrep⟩
  simp only [Freeing.destroy, hload, orDangling_some, ok_bind, Region.free_of_load hload]
  rfl

end Lists

/-! ### The cells of a model -/

/-- Cells that were in a list are freed, and nothing else changes. -/
structure Heap.DropsCells (heap heap' : Heap) (cellList : ℕ) (cells : List ℕ) : Prop where
  builds : heap'.builds = heap.builds
  models : heap'.models = heap.models
  lists : ∀ q ≠ cellList, heap'.lists.load q = heap.lists.load q
  cells : ∀ q ∉ cells, heap'.cells.load q = heap.cells.load q
  cellList : heap'.HoldsList cellList []

section Cells

variable {s : Freeing} {cellList p : ℕ} {cells : List ℕ}

/-- One cell is freed. -/
theorem freeCell_cons (hlist : s.heap.HoldsList cellList (p :: cells))
    (hnodup : (p :: cells).Nodup) (halloc : ∃ cell, s.heap.cells.load p = some cell) :
    ∃ tlist, freeCell cellList s = .ok (some { s with
        heap := { s.heap with
          lists := s.heap.lists.set cellList (some tlist)
          cells := s.heap.cells.set p none }
        freed := s.freed ++ [.cell p] }) ∧
      Represents (some tlist) cells := by
  obtain ⟨tlist, hdeleate, hrep⟩ := hlist.deleateFirst hnodup
  obtain ⟨cell, hload⟩ := halloc
  refine ⟨tlist, ?_, hrep⟩
  simp only [freeCell, hlist.nonempty_cons, ok_bind, if_true, hdeleate, Region.free_of_load hload,
    orDangling_some]
  rfl

/-- **The loop over the cells** frees them in their order. -/
theorem run_cellLoop (hlist : s.heap.HoldsList cellList cells) (hnodup : cells.Nodup)
    (halloc : ∀ p ∈ cells, ∃ cell, s.heap.cells.load p = some cell) :
    ∃ heap', (cellLoop cellList).run s =
        .ok { s with heap := heap', freed := s.freed ++ cells.map Object.cell } ∧
      s.heap.DropsCells heap' cellList cells := by
  induction cells generalizing s with
  | nil =>
    have hturn : (cellLoop cellList).turn s = .ok none := by
      simp only [cellLoop, freeCell, hlist.nonempty_nil, ok_bind]
      rfl
    refine ⟨s.heap, ?_, rfl, rfl, fun _ _ ↦ rfl, fun _ _ ↦ rfl, hlist⟩
    rw [WhileLoop.run_of_none hturn, List.map_nil, List.append_nil]
  | cons p cells ih =>
    obtain ⟨hp, hrest⟩ := List.nodup_cons.1 hnodup
    obtain ⟨tlist, hturn, hrep⟩ := freeCell_cons hlist hnodup (halloc p List.mem_cons_self)
    let t : Freeing := { s with
      heap := { s.heap with
        lists := s.heap.lists.set cellList (some tlist)
        cells := s.heap.cells.set p none }
      freed := s.freed ++ [.cell p] }
    have halloc' : ∀ q ∈ cells, ∃ cell, t.heap.cells.load q = some cell := fun q hq ↦ by
      obtain ⟨cell, hload⟩ := halloc q (List.mem_cons_of_mem _ hq)
      have hne : q ≠ p := fun heq ↦ hp (heq ▸ hq)
      exact ⟨cell, (Region.load_set_of_ne hne _).trans hload⟩
    obtain ⟨heap', hrun, hdrops⟩ := ih (s := t) (hlist.set hrep) hrest halloc'
    refine ⟨heap', ?_, hdrops.builds, hdrops.models, fun q hq ↦ ?_, fun q hq ↦ ?_,
      hdrops.cellList⟩
    · rw [WhileLoop.run_of_some hturn, hrun, List.append_assoc]
      rfl
    · exact (hdrops.lists q hq).trans (Region.load_set_of_ne hq _)
    · rw [List.mem_cons, not_or] at hq
      exact (hdrops.cells q hq.2).trans (Region.load_set_of_ne hq.1 _)

end Cells

/-! ### The builds -/

/-- The builds have different models, with different lists of different cells. -/
structure Separate (bs : List BuildShape) : Prop where
  builds : (bs.map BuildShape.build).Nodup
  models : (bs.map fun b ↦ b.model.model).Nodup
  lists : (bs.map fun b ↦ b.model.cellList).Nodup
  cells : (bs.flatMap fun b ↦ b.model.cells).Nodup

/-- The memory holds a list of separate builds, and each with its model. -/
structure Heap.HoldsBuilds (heap : Heap) (buildList : ℕ) (bs : List BuildShape) : Prop where
  list : heap.HoldsList buildList (bs.map BuildShape.build)
  builds : ∀ b ∈ bs, heap.builds.load b.build = some b.record
  models : ∀ b ∈ bs, heap.HoldsModel b.model
  cellList_ne : ∀ b ∈ bs, b.model.cellList ≠ buildList
  separate : Separate bs

/-- What is freed of a build, in order. -/
def BuildShape.objects (b : BuildShape) : List Object :=
  b.model.cells.map .cell ++ [.model b.model.model, .build b.build]

/-- A model stays held while its own objects stay as they are. -/
theorem Heap.HoldsModel.congr {heap heap' : Heap} {m : ModelShape} (h : heap.HoldsModel m)
    (hmodel : heap'.models.load m.model = heap.models.load m.model)
    (hlist : heap'.lists.load m.cellList = heap.lists.load m.cellList)
    (hcells : ∀ p ∈ m.cells, heap'.cells.load p = heap.cells.load p) : heap'.HoldsModel m where
  record := hmodel.trans h.record
  cellList := by
    obtain ⟨tlist, hload, hrep⟩ := h.cellList
    exact ⟨tlist, hlist.trans hload, hrep⟩
  cells := by rw [List.map_congr_left hcells, h.cells]

section Builds

variable {s : Freeing} {buildList : ℕ} {b : BuildShape} {bs : List BuildShape}

theorem Separate.tail (h : Separate (b :: bs)) : Separate bs where
  builds := (List.nodup_cons.1 h.builds).2
  models := (List.nodup_cons.1 h.models).2
  lists := (List.nodup_cons.1 h.lists).2
  cells := (List.nodup_append.1 h.cells).2.1

/-- The first build shares nothing with the others. -/
theorem Separate.apart (h : Separate (b :: bs)) :
    ∀ b' ∈ bs, b'.build ≠ b.build ∧ b'.model.model ≠ b.model.model ∧
      b'.model.cellList ≠ b.model.cellList ∧ ∀ p ∈ b'.model.cells, p ∉ b.model.cells := by
  intro b' hb'
  obtain ⟨hbuild, -⟩ := List.nodup_cons.1 h.builds
  obtain ⟨hmodel, -⟩ := List.nodup_cons.1 h.models
  obtain ⟨hlist, -⟩ := List.nodup_cons.1 h.lists
  have hcells := (List.nodup_append.1 h.cells).2.2
  refine ⟨fun heq ↦ hbuild ?_, fun heq ↦ hmodel ?_, fun heq ↦ hlist ?_, fun p hp hin ↦ ?_⟩
  · exact List.mem_map.2 ⟨b', hb', heq⟩
  · exact List.mem_map.2 ⟨b', hb', heq⟩
  · exact List.mem_map.2 ⟨b', hb', heq⟩
  · exact hcells p hin p (List.mem_flatMap.2 ⟨b', hb', hp⟩) rfl

/-- **The frame.** The other builds are held while only the objects of the first one change. -/
theorem Heap.HoldsBuilds.tail {heap heap' : Heap} (h : heap.HoldsBuilds buildList (b :: bs))
    (hlist : heap'.HoldsList buildList (bs.map BuildShape.build))
    (hbuilds : ∀ p ≠ b.build, heap'.builds.load p = heap.builds.load p)
    (hmodels : ∀ p ≠ b.model.model, heap'.models.load p = heap.models.load p)
    (hlists : ∀ p ≠ b.model.cellList, p ≠ buildList → heap'.lists.load p = heap.lists.load p)
    (hcells : ∀ p ∉ b.model.cells, heap'.cells.load p = heap.cells.load p) :
    heap'.HoldsBuilds buildList bs where
  list := hlist
  builds b' hb' := (hbuilds _ (h.separate.apart b' hb').1).trans
    (h.builds b' (List.mem_cons_of_mem _ hb'))
  models b' hb' := by
    obtain ⟨-, hmodel, hlist, hcell⟩ := h.separate.apart b' hb'
    have hne := h.cellList_ne b' (List.mem_cons_of_mem _ hb')
    exact (h.models b' (List.mem_cons_of_mem _ hb')).congr (hmodels _ hmodel) (hlists _ hlist hne)
      fun p hp ↦ hcells p (hcell p hp)
  cellList_ne b' hb' := h.cellList_ne b' (List.mem_cons_of_mem _ hb')
  separate := h.separate.tail

/-- **One build is freed**, with its model, and the others are held as before. -/
theorem freeBuild_cons (h : s.heap.HoldsBuilds buildList (b :: bs)) :
    ∃ heap' tlist, freeBuild buildList s = .ok (some ⟨heap', s.freed ++ b.objects,
        s.destroyed ++ [(b.model.cellList, tlist)]⟩) ∧
      Represents (some tlist) [] ∧ heap'.HoldsBuilds buildList bs := by
  have hb := h.builds b List.mem_cons_self
  have hm := h.models b List.mem_cons_self
  have harea := h.cellList_ne b List.mem_cons_self
  obtain ⟨tlist, hdeleate, hrep⟩ := h.list.deleateFirst h.separate.builds
  let heap₁ : Heap := { s.heap with lists := s.heap.lists.set buildList (some tlist) }
  have hlist₁ : heap₁.HoldsList b.model.cellList b.model.cells :=
    (s.heap.extends_set buildList (some tlist)).holdsList harea hm.cellList
  obtain ⟨heap₂, hrun, hdrops⟩ := run_cellLoop (s := { s with heap := heap₁ }) hlist₁
    (List.nodup_append.1 h.separate.cells).1 fun p hp ↦ hm.exists_load hp
  obtain ⟨tlist', hdestroy, hrep'⟩ := destroy_of_nil
    (s := { s with heap := heap₂, freed := s.freed ++ b.model.cells.map Object.cell })
    hdrops.cellList
  have hmodel₂ : heap₂.models.load b.model.model = some ⟨b.model.value.id, b.model.cellList⟩ := by
    rw [hdrops.models]
    exact hm.record
  have hbuild₂ : heap₂.builds.load b.build = some b.record := by
    rw [hdrops.builds]
    exact hb
  refine ⟨⟨heap₂.lists.set b.model.cellList none, heap₂.cells,
    heap₂.models.set b.model.model none, heap₂.builds.set b.build none⟩, tlist', ?_, hrep', ?_⟩
  · simp only [freeBuild, h.list.nonempty_cons, ok_bind, if_true, hdeleate, hb, orDangling_some,
      show b.record.model = some b.model.model from rfl, hm.record]
    rw [show (cellLoop b.model.cellList).run _ = _ from hrun, ok_bind,
      show Freeing.destroy _ b.model.cellList = _ from hdestroy, ok_bind]
    simp only [Region.free_of_load hmodel₂, Region.free_of_load hbuild₂, orDangling_some, ok_bind,
      BuildShape.objects, List.append_assoc]
    rfl
  · refine h.tail ?_ (fun p hp ↦ ?_) (fun p hp ↦ ?_) (fun p hp hp' ↦ ?_) hdrops.cells
    · obtain ⟨tlist₁, hload₁, hrep₁⟩ := h.list.set hrep
      refine ⟨tlist₁, ?_, hrep₁⟩
      exact (Region.load_set_of_ne (Ne.symm harea) _).trans
        ((hdrops.lists buildList (Ne.symm harea)).trans hload₁)
    · exact (Region.load_set_of_ne hp _).trans (by rw [hdrops.builds])
    · exact (Region.load_set_of_ne hp _).trans (by rw [hdrops.models])
    · exact (Region.load_set_of_ne hp _).trans ((hdrops.lists p hp).trans
        (Region.load_set_of_ne hp' _))

/-- **The loop over the builds** frees them all, and empties their lists. -/
theorem run_buildLoop (h : s.heap.HoldsBuilds buildList bs) :
    ∃ heap' destroyed, (buildLoop buildList).run s = .ok
        ⟨heap', s.freed ++ bs.flatMap BuildShape.objects, s.destroyed ++ destroyed⟩ ∧
      destroyed.map Prod.fst = bs.map (fun b ↦ b.model.cellList) ∧
      (∀ list ∈ destroyed, Represents (some list.2) []) ∧ heap'.HoldsList buildList [] := by
  induction bs generalizing s with
  | nil =>
    have hturn : (buildLoop buildList).turn s = .ok none := by
      simp only [buildLoop, freeBuild, h.list.nonempty_nil, ok_bind]
      rfl
    refine ⟨s.heap, [], ?_, rfl, by simp, h.list⟩
    rw [WhileLoop.run_of_none hturn, List.flatMap_nil, List.append_nil, List.append_nil]
  | cons b bs ih =>
    obtain ⟨heap₁, tlist, hturn, hrep, hbuilds⟩ := freeBuild_cons h
    let t : Freeing :=
      ⟨heap₁, s.freed ++ b.objects, s.destroyed ++ [(b.model.cellList, tlist)]⟩
    obtain ⟨heap', destroyed, hrun, hnames, hempty, hlist⟩ := ih (s := t) hbuilds
    refine ⟨heap', (b.model.cellList, tlist) :: destroyed, ?_, ?_, ?_, hlist⟩
    · rw [WhileLoop.run_of_some hturn, hrun, List.flatMap_cons, ← List.append_assoc,
        ← List.singleton_append, ← List.append_assoc]
    · rw [List.map_cons, List.map_cons, hnames]
    · rintro list hin
      rcases List.mem_cons.1 hin with rfl | hin
      · exact hrep
      · exact hempty list hin

/-- **All of the area is freed.** -/
theorem freeArea_holdsBuilds {area : Area} {heap : Heap}
    (h : heap.HoldsBuilds area.buildList bs) :
    ∃ s, freeArea area heap = .ok s ∧ s.freed = bs.flatMap BuildShape.objects ∧
      s.destroyed.map Prod.fst =
        (bs.map fun b ↦ b.model.cellList) ++ [area.buildList] ∧
      ∀ list ∈ s.destroyed, Represents (some list.2) [] := by
  obtain ⟨heap', destroyed, hrun, hnames, hempty, hlist⟩ :=
    run_buildLoop (s := ⟨heap, [], []⟩) h
  obtain ⟨tlist, hdestroy, hrep⟩ :=
    destroy_of_nil (s := ⟨heap', bs.flatMap BuildShape.objects, destroyed⟩) hlist
  rw [List.nil_append, List.nil_append] at hrun
  refine ⟨⟨{ heap' with lists := heap'.lists.set area.buildList none },
    bs.flatMap BuildShape.objects, destroyed ++ [(area.buildList, tlist)]⟩, ?_, rfl, ?_, ?_⟩
  · rw [freeArea, hrun, ok_bind, hdestroy]
  · rw [List.map_append, hnames]
    rfl
  · intro list hin
    rcases List.mem_append.1 hin with hin | hin
    · exact hempty list hin
    · rw [List.mem_singleton.1 hin]
      exact hrep

end Builds

/-! ### What the area leads to -/

/-- What can be reached from the list of the builds. -/
inductive Reachable (heap : Heap) (buildList : ℕ) : Object → Prop
  | build {builds : List ℕ} {p : ℕ} :
    heap.HoldsList buildList builds → p ∈ builds → Reachable heap buildList (.build p)
  | model {p model : ℕ} :
    Reachable heap buildList (.build p) → heap.model p = some model →
      Reachable heap buildList (.model model)
  | cell {model p : ℕ} {record : ModelRecord} {cells : List ℕ} :
    Reachable heap buildList (.model model) → heap.models.load model = some record →
      heap.HoldsList record.cellList cells → p ∈ cells → Reachable heap buildList (.cell p)

section Reachable

variable {heap : Heap} {buildList : ℕ} {b : BuildShape} {bs : List BuildShape} {x : Object}

theorem BuildShape.mem_objects : x ∈ b.objects ↔
    (∃ p ∈ b.model.cells, x = .cell p) ∨ x = .model b.model.model ∨ x = .build b.build := by
  simp only [BuildShape.objects, List.mem_append, List.mem_map, List.mem_cons, List.not_mem_nil,
    or_false, eq_comm]

/-- Separate builds have different objects. -/
theorem Separate.nodup_objects (h : Separate bs) : (bs.flatMap BuildShape.objects).Nodup := by
  induction bs with
  | nil => exact List.nodup_nil
  | cons b bs ih =>
    rw [List.flatMap_cons, List.nodup_append]
    refine ⟨?_, ih h.tail, ?_⟩
    · have hcells := (List.nodup_append.1 h.cells).1.map (f := Object.cell)
        fun _ _ heq ↦ Object.cell.inj heq
      refine List.nodup_append.2 ⟨hcells, by simp, ?_⟩
      simp
    · rintro x hx _ hy rfl
      obtain ⟨b', hb', hx'⟩ := List.mem_flatMap.1 hy
      obtain ⟨hbuild, hmodel, -, hcells⟩ := h.apart b' hb'
      rw [BuildShape.mem_objects] at hx hx'
      rcases hx with ⟨p, hp, rfl⟩ | rfl | rfl
      · simp only [Object.cell.injEq, reduceCtorEq, or_false] at hx'
        obtain ⟨q, hq, rfl⟩ := hx'
        exact hcells _ hq hp
      · simp [Ne.symm hmodel] at hx'
      · simp [Ne.symm hbuild] at hx'

/-- **What can be reached** are the objects of the builds. -/
theorem Heap.HoldsBuilds.reachable_iff (h : heap.HoldsBuilds buildList bs) :
    Reachable heap buildList x ↔ x ∈ bs.flatMap BuildShape.objects := by
  constructor
  · intro hx
    induction hx with
    | build hlist hp =>
      cases hlist.unique h.list
      obtain ⟨b, hb, rfl⟩ := List.mem_map.1 hp
      exact List.mem_flatMap.2 ⟨b, hb, BuildShape.mem_objects.2 (Or.inr (Or.inr rfl))⟩
    | @model p model _ hmodel ih =>
      obtain ⟨b, hb, hmem⟩ := List.mem_flatMap.1 ih
      have hp : p = b.build := by simpa [BuildShape.mem_objects] using hmem
      rw [hp, Heap.model, h.builds b hb] at hmodel
      cases hmodel
      exact List.mem_flatMap.2 ⟨b, hb, BuildShape.mem_objects.2 (Or.inr (Or.inl rfl))⟩
    | @cell model p record cells _ hload hlist hp ih =>
      obtain ⟨b, hb, hmem⟩ := List.mem_flatMap.1 ih
      have hmodel : model = b.model.model := by simpa [BuildShape.mem_objects] using hmem
      rw [hmodel, (h.models b hb).record] at hload
      cases hload
      cases hlist.unique (h.models b hb).cellList
      exact List.mem_flatMap.2 ⟨b, hb, BuildShape.mem_objects.2 (Or.inl ⟨_, hp, rfl⟩)⟩
  · intro hx
    obtain ⟨b, hb, hmem⟩ := List.mem_flatMap.1 hx
    have hbuild : Reachable heap buildList (.build b.build) :=
      .build h.list (List.mem_map_of_mem hb)
    have hmodel : Reachable heap buildList (.model b.model.model) :=
      .model hbuild (by rw [Heap.model, h.builds b hb]; rfl)
    rcases BuildShape.mem_objects.1 hmem with ⟨p, hp, rfl⟩ | rfl | rfl
    · exact .cell hmodel (h.models b hb).record (h.models b hb).cellList hp
    · exact hmodel
    · exact hbuild

end Reachable

/-! ### Freeing what was loaded -/

/-- `freeArea` frees what the area leads to, each object once, and the lists when they are empty. -/
structure FreesOnce (area : Area) (heap : Heap) (s : Freeing) : Prop where
  freeArea : freeArea area heap = .ok s
  nodup : s.freed.Nodup
  freed : ∀ x, x ∈ s.freed ↔ Reachable heap area.buildList x
  nodup_lists : (s.destroyed.map Prod.fst).Nodup
  lists : ∀ list, list ∈ s.destroyed.map Prod.fst ↔ list = area.buildList ∨
    ∃ model record, Reachable heap area.buildList (.model model) ∧
      heap.models.load model = some record ∧ record.cellList = list
  empty : ∀ list ∈ s.destroyed, Represents (some list.2) []

/-- **Separate builds are freed once.** -/
theorem Heap.HoldsBuilds.freesOnce {area : Area} {heap : Heap} {bs : List BuildShape}
    (h : heap.HoldsBuilds area.buildList bs) : ∃ s, FreesOnce area heap s := by
  obtain ⟨s, hfree, hfreed, hnames, hempty⟩ := freeArea_holdsBuilds h
  refine ⟨s, hfree, ?_, fun x ↦ ?_, ?_, fun list ↦ ?_, hempty⟩
  · rw [hfreed]
    exact h.separate.nodup_objects
  · rw [hfreed, h.reachable_iff]
  · rw [hnames, ← List.concat_eq_append]
    refine h.separate.lists.concat fun hin ↦ ?_
    obtain ⟨b, hb, heq⟩ := List.mem_map.1 hin
    exact h.cellList_ne b hb heq
  · rw [hnames, List.mem_append, List.mem_singleton, or_comm, List.mem_map]
    refine or_congr_right ⟨?_, ?_⟩
    · rintro ⟨b, hb, rfl⟩
      refine ⟨b.model.model, _, h.reachable_iff.2 ?_, (h.models b hb).record, rfl⟩
      exact List.mem_flatMap.2 ⟨b, hb, BuildShape.mem_objects.2 (Or.inr (Or.inl rfl))⟩
    · rintro ⟨model, record, hreach, hload, rfl⟩
      obtain ⟨b, hb, hmem⟩ := List.mem_flatMap.1 (h.reachable_iff.1 hreach)
      have hmodel : model = b.model.model := by simpa [BuildShape.mem_objects] using hmem
      rw [hmodel, (h.models b hb).record] at hload
      cases hload
      exact ⟨b, hb, rfl⟩

section Loaded

variable {l : Loader} {s : DoorIntercom.Loader} {ms : List ModelShape} {bs : List BuildShape}

/-- The builds of a loader share nothing. -/
theorem Loader.Holds.separate (h : l.Holds s ms bs) (hmatched : s.Matched) : Separate bs := by
  have hsubset : bs.map BuildShape.model ⊆ ms := fun m hm ↦ by
    obtain ⟨b, hb, rfl⟩ := List.mem_map.1 hm
    exact (h.known b hb).1
  obtain ⟨ms', hperm, hsub⟩ := (h.nodup_model hmatched).subperm hsubset
  have hlists := (List.nodup_cons.1 (List.nodup_cons.1 h.nodup_lists).2).2
  refine ⟨(h.nodup_MODID hmatched).of_map, ?_, ?_, ?_⟩
  · have hmodels := (hperm.map ModelShape.model).nodup_iff.1 (h.nodup_models.sublist (hsub.map _))
    rwa [List.map_map] at hmodels
  · have hlists' := (hperm.map ModelShape.cellList).nodup_iff.1 (hlists.sublist (hsub.map _))
    rwa [List.map_map] at hlists'
  · have hcells := (hperm.flatMap_right ModelShape.cells).nodup_iff.1
      (h.nodup_cells.sublist (hsub.flatMap ModelShape.cells))
    rwa [List.flatMap_map] at hcells

/-- **What is loaded** are separate builds, also when the list of the models is destroyed. -/
theorem Loader.Holds.holdsBuilds (h : l.Holds s ms bs) (hmatched : s.Matched) :
    Heap.HoldsBuilds { l.heap with lists := l.heap.lists.set l.modelList none } l.buildList bs := by
  have hext := l.heap.extends_set l.modelList none
  obtain ⟨hbuild, hlists⟩ := List.nodup_cons.1 h.nodup_lists
  obtain ⟨hmodels, -⟩ := List.nodup_cons.1 hlists
  simp only [List.mem_cons, not_or, List.mem_map, not_exists, not_and] at hbuild hmodels
  refine ⟨hext.holdsList hbuild.1 h.buildList, h.builds, fun b hb ↦ ?_, fun b hb ↦ ?_,
    h.separate hmatched⟩
  · exact (h.models _ (h.known b hb).1).mono (hmodels _ (h.known b hb).1) hext
  · exact hbuild.2 _ (h.known b hb).1

end Loaded

/-! ### Documents -/

/-- At every point of the loop of `getAreaInfo` the builds share no model, and what is loaded in the
end is freed once. -/
def NeverShares (junk : Junk) (nodes : List XmlNode) : Prop :=
  (∀ k ≤ nodes.length, ∃ l builds models,
    loadNodes junk 0 (nodes.take k) .start = .ok l ∧ l.ModelsSeparate builds models) ∧
    ∃ area heap s, getAreaInfo junk (some (.element "NETCFG" nodes)) = .ok (some (area, heap)) ∧
      FreesOnce area heap s

section Documents

variable {junk : Junk} {nodes : List XmlNode} {l : Loader}

/-- What is loaded in the end, if the loop ends. -/
theorem getAreaInfo_of_ok (h : loadNodes junk 0 nodes .start = .ok l) {tlist : TLinkList ℕ}
    (hload : l.heap.lists.load l.modelList = some tlist) :
    getAreaInfo junk (some (.element "NETCFG" nodes)) = .ok (some (⟨l.mem, l.buildList⟩,
      { l.heap with lists := l.heap.lists.set l.modelList none })) := by
  rw [getAreaInfo]
  dsimp only
  rw [if_pos (by rfl), XmlNode.children, h, ok_bind, Region.free_of_load hload]
  rfl

/-- The loop ends if there is an area. -/
theorem exists_loadNodes {area : Area} {heap : Heap}
    (h : getAreaInfo junk (some (.element "NETCFG" nodes)) = .ok (some (area, heap))) :
    ∃ l, loadNodes junk 0 nodes .start = .ok l := by
  rw [getAreaInfo] at h
  dsimp only at h
  rw [if_pos (by rfl)] at h
  obtain ⟨l, hl, -⟩ := bind_eq_ok.1 h
  exact ⟨l, hl⟩

/-- Where a document is loaded, so are its beginnings. -/
theorem loadNodes_take (h : ∃ l, loadNodes junk 0 nodes .start = .ok l) (k : ℕ) :
    ∃ l, loadNodes junk 0 (nodes.take k) .start = .ok l := by
  rw [loadNodes_isOk_iff] at h ⊢
  obtain ⟨⟨hmodels, hitems⟩, hload, hroom⟩ := h
  have hsub : (nodes.take k).Sublist nodes := List.take_sublist k nodes
  have hids := ((hsub.filter fun node ↦ node.name = "Modol").filterMap storedId).length_le
  have hnet := hsub.countP_le (p := fun node ↦ node.name = "NETITEM")
  refine ⟨⟨?_, fun node hnode ↦ hitems node (hsub.subset hnode)⟩,
    fun node hnode ↦ hload node (hsub.subset hnode), hnet.trans hroom⟩
  exact Nat.lt_of_le_of_lt (Nat.add_le_add_left hids 0) hmodels

/-- **Loaded builds never share a model**, and freeing them frees every object once, if and only if
the document can be loaded: the texts of its addresses fit, a model's `ID` has a content, there is
room for its net items on `arm64-v8a`, and its lists can be counted. -/
theorem neverShares_iff (junk : Junk) (nodes : List XmlNode) :
    NeverShares junk nodes ↔
      (∀ node ∈ nodes, Loadable node) ∧ netItems nodes ≤ 3 ∧ (storedIds nodes).length < 2 ^ 31 ∧
        ∀ node ∈ nodes, node.name = "Modol" → items node.children < 2 ^ 31 := by
  have hcountable : Countable 0 nodes ↔ (storedIds nodes).length < 2 ^ 31 ∧
      ∀ node ∈ nodes, node.name = "Modol" → items node.children < 2 ^ 31 := by
    rw [Countable, Nat.zero_add]
  rw [← hcountable]
  constructor
  · rintro ⟨-, area, heap, s, hload, -⟩
    obtain ⟨hcount, hloadable, hroom⟩ := (loadNodes_isOk_iff junk nodes).1 (exists_loadNodes hload)
    exact ⟨hloadable, hroom, hcount⟩
  · rintro ⟨hloadable, hroom, hcount⟩
    have hok := (loadNodes_isOk_iff junk nodes).2 ⟨hcount, hloadable, hroom⟩
    refine ⟨fun k _ ↦ ?_, ?_⟩
    · obtain ⟨l, hl⟩ := loadNodes_take hok k
      obtain ⟨-, s, -, hmatched, ms, bs, hholds⟩ := (simulates_start junk (nodes.take k)).sound l hl
      exact ⟨l, _, _, hl, hholds.modelsSeparate hmatched⟩
    · obtain ⟨l, hl⟩ := hok
      obtain ⟨-, s, -, hmatched, ms, bs, hholds⟩ := (simulates_start junk nodes).sound l hl
      obtain ⟨tlist, hload, -⟩ := hholds.modelList
      have hfrees : ∃ t, FreesOnce ⟨l.mem, l.buildList⟩ _ t :=
        (hholds.holdsBuilds hmatched).freesOnce
      obtain ⟨t, hfree⟩ := hfrees
      exact ⟨_, _, t, getAreaInfo_of_ok hl hload, hfree⟩

/-- A model, its building, and four subnets. -/
def fourNetItems : List XmlNode :=
  [.modol "1", .buildList "1" "1" "1"] ++ List.replicate 4
    (.element "NETITEM" [.leaf "NETSTART" "192.168.1.2", .leaf "NETEND" "192.168.8.255",
      .leaf "NETGW" "192.168.1.1", .leaf "IPID" "1"])

/-- The fourth one is stored over the pointer to the builds. -/
theorem not_neverShares_fourNetItems : ¬ ∃ junk, NeverShares junk fourNetItems := by
  rintro ⟨junk, -, area, heap, s, hload, -⟩
  obtain ⟨-, -, hroom⟩ := (loadNodes_isOk_iff junk fourNetItems).1 (exists_loadNodes hload)
  exact absurd hroom (by decide)

end Documents

end Linked

end DoorIntercom
