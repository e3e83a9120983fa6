import DoorIntercom.Area.FillInfo
import DoorIntercom.Area.Config
import DoorIntercom.Lib.FallibleRun
import DoorIntercom.Lib.KeyedMerge

/-!
# Loading the configuration

`getAreaInfo` walks over the children of the document's `NETCFG` element and loads each by its name:
a `Modol` into the list of models, a `BuildList` into the list of builds, the guards and the net
items into the records of the area. Those lie in one block of memory with the layout of `struct
Area` on `arm64-v8a`: `guard` at 4, `netItem` at 16, `modeMatch` at 48, `version` at 56, and the
pointer `buildList` at 64, where the block has 8 bytes left. A store that runs over the end of its
record hits the next one. On `armeabi-v7a`, which is built too, the pointer is at 60 and has 4
bytes: there a third `NETITEM` with an `IPID` overwrites it, here a fourth one does.

A `BuildList` element whose `MODID` is there already is **merged** into the build that has it: its
own range is not looked at, and the build's range grows by one. An element without a model is
dropped. `malloc` is taken to succeed.
-/

namespace DoorIntercom

/-! ### The tables of names -/

def cellInfo : List String :=
  ["CellBegin", "CellEnd", "FloorBegin", "FloorEnd", "RoomBegin", "RoomEnd", "DoorCount",
    "RoomCount", "SecondCount"]

def buildInfo : List String := ["IPID", "BUILDBEGIN", "BUILDEND", "MODID"]

def guardInfo : List String := ["IPID", "IndexBegin", "IndexEnd"]

def netItemInfo : List String := ["NETSTART", "NETEND", "NETGW", "IPID"]

def areaName : List String :=
  ["Modol", "BuildList", "MANAGE", "AREAGATE", "GUARD", "NETITEM", "DEVNAME", "MODEMATCH",
    "VERSION", "NETITEM"]

/-! ### Models -/

/-- The record of a cell. -/
def readCell (mem : Mem) : Cell :=
  ⟨mem 0, mem 1, mem 2, mem 3, mem 4, mem 5, mem 6, mem 7, mem 8⟩

/-- The cells of the `Item`s among the nodes from the `i`-th on. -/
def loadCells (junk : Junk) : ℕ → List XmlNode → Except LoadFault (List Cell)
  | _, [] => .ok []
  | i, subNode :: rest =>
    if subNode.name = "Item" then do
      let r ← fillInfo cellInfo subNode 0 1 (junk.at i) .zero
      let cellList ← loadCells junk (i + 1) rest
      return readCell r.1 :: cellList
    else loadCells junk (i + 1) rest

/-- The `id` of a model, which is read if the first child is the `ID`. -/
def loadModelId (subNode : XmlNode) : Except LoadFault UChar :=
  if subNode.name = "ID" then
    match subNode.xmlNodeGetContent with
    | some szKey => .ok ((sscanf szKey).elim 0 fun n ↦ (toInt n).setWidth 8)
    | none => .error .szKey
  else .ok 0

/-- `Modol`. -/
def loadModel (junk : Junk) (curNode : XmlNode) : Except LoadFault (Option Model) :=
  match curNode.children with
  | [] => .ok none
  | subNode :: rest => do
    let id ← loadModelId subNode
    let cellList ← loadCells junk 0 (subNode :: rest)
    return some ⟨id, cellList⟩

/-! ### Builds -/

/-- The record of a build, with its model. -/
def readBuild (mem : Mem) (model : Model) : Build := ⟨mem 0, mem 1, mem 2, mem 3, model⟩

/-- Another building for a build: `buildEnd++`. -/
def Build.grow (existBuild : Build) : Build :=
  { existBuild with buildEnd := existBuild.buildEnd + 1 }

/-- The list of builds after the record of one more element. -/
def addBuild (modelList : List Model) (buildList : List Build) (mem : Mem) : List Build :=
  match buildList.findIdx? fun existBuild ↦ existBuild.MODID = mem 3 with
  | some i => buildList.modify i Build.grow
  | none =>
    match modelList.find? fun model ↦ mem 3 = model.id with
    | some model => buildList ++ [readBuild mem model]
    | none => buildList

/-! ### The area -/

/-- The block of memory of the area on `arm64-v8a`, `buildList` aside. -/
structure AreaBlock where
  mem : Mem
  buildList : List Build

namespace AreaBlock

/-- The offset of `guard[i]`. -/
def guardAddr (i : ℕ) : ℕ := 4 + 3 * i

/-- The offset of `netItem[i]`. -/
def netItemAddr (i : ℕ) : ℕ := 16 + 16 * i

/-- The offset of `modeMatch`. -/
def modeMatchAddr : ℕ := 48

/-- The offset of `version`. -/
def versionAddr : ℕ := 56

/-- The offset of the pointer `buildList`: three net items fit in front of it. -/
def buildListAddr : ℕ := 64

/-- The four bytes of an address. -/
def readIpAddress (mem : Mem) (addr : ℕ) : IpAddress := fun i ↦ mem (addr + i)

/-- An `int`. -/
def readInt (mem : Mem) (addr : ℕ) : Word :=
  mem (addr + 3) ++ mem (addr + 2) ++ mem (addr + 1) ++ mem addr

/-- What the numbering and the search read of the area. -/
def area (block : AreaBlock) : Area where
  guard i := ⟨block.mem (guardAddr i), block.mem (guardAddr i + 1), block.mem (guardAddr i + 2)⟩
  netItem i := ⟨readIpAddress block.mem (netItemAddr i),
    readIpAddress block.mem (netItemAddr i + 4), readIpAddress block.mem (netItemAddr i + 8),
    readInt block.mem (netItemAddr i + 12)⟩
  buildList := block.buildList

end AreaBlock

open AreaBlock FallibleRun

/-- The start of a net item is raised to its gateway. -/
def raiseStart (mem : Mem) (ipStart netGW : ℕ) : Mem :=
  if mem netGW ≠ 0 ∧ mem (ipStart + 3) ≤ mem (netGW + 3) then
    Function.update mem (ipStart + 3) (mem (netGW + 3))
  else mem

/-- `NETITEM`; the increment inside `sizeof` is not evaluated. -/
def loadNetItem (junk : Junk) (curNode : XmlNode) (mem : Mem) (netItemIndex : ℕ) :
    Except LoadFault Mem :=
  if netItemAddr netItemIndex + 16 ≤ buildListAddr then do
    let r ← fillInfo netItemInfo curNode (netItemAddr netItemIndex) 4 junk mem
    return raiseStart r.1 (netItemAddr netItemIndex) (netItemAddr netItemIndex + 8)
  else .error .netItem

/-- `MANAGE`, `AREAGATE` and `GUARD`. -/
def loadGuard (junk : Junk) (curNode : XmlNode) (i : ℕ) (mem : Mem) : Except LoadFault Mem := do
  let r ← fillInfo guardInfo curNode (guardAddr i) 1 junk mem
  return r.1

/-- The byte of a string at an index, `0` at its end; what follows is indeterminate. -/
def byteAt (junk : Junk) (szKey : List Char) (i : ℕ) : UChar :=
  match szKey[i]? with
  | some c => BitVec.ofNat 8 c.toNat
  | none => if i = szKey.length then 0 else (junk.index [i]).setWidth 8

/-- `MODEMATCH`. -/
def loadModeMatch (junk : Junk) (curNode : XmlNode) (mem : Mem) : Mem :=
  match curNode.xmlNodeGetContent with
  | some szKey =>
    (List.range 6).foldl (fun mem i ↦
      Function.update mem (modeMatchAddr + i) (byteAt junk szKey (6 - i - 1) - 48#8)) mem
  | none => mem

/-- `VERSION`. -/
def loadVersion (curNode : XmlNode) (mem : Mem) : Mem :=
  match curNode.xmlNodeGetContent with
  | some szKey => (sscanf szKey).elim mem fun n ↦ mem.storeInt versionAddr (toInt n)
  | none => mem

/-! ### The loop of `getAreaInfo` -/

/-- The variables of the loop. -/
structure Loader where
  mem : Mem
  buildList : List Build
  modelList : List Model
  netItemIndex : ℕ

/-- The variables before the loop. -/
def Loader.start : Loader := ⟨.zero, [], [], 0⟩

/-- One top-level element. -/
def loadNode (junk : Junk) (curNode : XmlNode) (s : Loader) : Except LoadFault Loader :=
  let i := areaName.idxOf curNode.name
  match i with
  | 0 => do
    let model ← loadModel junk curNode
    return { s with modelList := s.modelList ++ model.toList }
  | 1 => do
    let r ← fillInfo buildInfo curNode 0 1 junk .zero
    return { s with buildList := addBuild s.modelList s.buildList r.1 }
  | 2 | 3 | 4 => do
    let mem ← loadGuard junk curNode (i - 2) s.mem
    return { s with mem }
  | 5 => do
    let mem ← loadNetItem junk curNode s.mem s.netItemIndex
    return { s with mem, netItemIndex := s.netItemIndex + 1 }
  | 7 => .ok { s with mem := loadModeMatch junk curNode s.mem }
  | 8 => .ok { s with mem := loadVersion curNode s.mem }
  | _ => .ok s

/-- The top-level elements from the `i`-th on. -/
def loadNodes (junk : Junk) : ℕ → List XmlNode → Loader → Except LoadFault Loader
  | _, [], s => .ok s
  | i, curNode :: rest, s => do
    let s ← loadNode (junk.at i) curNode s
    loadNodes junk (i + 1) rest s

/-- `getAreaInfo`, for the root of the document, if it could be parsed and is not empty. -/
def getAreaInfo (junk : Junk) (root : Option XmlNode) : Except LoadFault (Option AreaBlock) :=
  match root with
  | none => .ok none
  | some root =>
    if root.name = "NETCFG" then do
      let s ← loadNodes junk 0 root.children .start
      return some ⟨s.mem, s.buildList⟩
    else .ok none

/-! ### What one element does -/

/-- The element can be loaded: the texts of a net item's addresses fit, and a model's `ID` has a
content. -/
def Loadable (curNode : XmlNode) : Prop :=
  (curNode.name = "NETITEM" → ∀ key ∈ netItemInfo, ¬ Overflows curNode key) ∧
    (curNode.name = "Modol" → ∀ subNode ∈ curNode.children.head?, subNode.name = "ID" →
      subNode.xmlNodeGetContent ≠ none)

/-- The `id` that a `Modol` element is stored with, if it is. -/
def storedId (curNode : XmlNode) : Option UChar :=
  curNode.children.head?.map fun subNode ↦
    if subNode.name = "ID" then
      (subNode.xmlNodeGetContent.bind sscanf).elim 0 fun n ↦ (toInt n).setWidth 8
    else 0

section Step

variable {junk : Junk} {curNode : XmlNode} {s s' : Loader}

theorem loadCells_isOk (junk : Junk) (i : ℕ) (nodes : List XmlNode) :
    ∃ cellList, loadCells junk i nodes = .ok cellList := by
  induction nodes generalizing i with
  | nil => exact ⟨_, rfl⟩
  | cons subNode rest ih =>
    obtain ⟨cellList, hcells⟩ := ih (i + 1)
    rw [loadCells]
    by_cases hitem : subNode.name = "Item"
    · obtain ⟨r, hr⟩ := fillInfo_isOk (by decide : ∀ key ∈ cellInfo, isNet key = false)
        subNode 0 1 (junk.at i) .zero
      rw [if_pos hitem, hr, hcells]
      exact ⟨_, rfl⟩
    · rw [if_neg hitem]
      exact ⟨cellList, hcells⟩

/-- A model is loaded unless its `ID` has no content. -/
theorem loadModel_isOk_iff : (∃ model, loadModel junk curNode = .ok model) ↔
    ∀ subNode ∈ curNode.children.head?, subNode.name = "ID" →
      subNode.xmlNodeGetContent ≠ none := by
  rw [loadModel]
  cases hchildren : curNode.children with
  | nil => simp
  | cons subNode rest =>
    obtain ⟨cellList, hcells⟩ := loadCells_isOk junk 0 (subNode :: rest)
    by_cases hid : subNode.name = "ID"
    · cases hkey : subNode.xmlNodeGetContent <;>
        simp [loadModelId, hid, hkey, hcells, bind, Except.bind, pure, Except.pure]
    · simp [loadModelId, hid, hcells, bind, Except.bind, pure, Except.pure]

/-- **A model is loaded** with the `id` that is stored. -/
theorem map_id_loadModel {model : Option Model} (h : loadModel junk curNode = .ok model) :
    model.map Model.id = storedId curNode := by
  rw [loadModel] at h
  rw [storedId]
  cases hchildren : curNode.children with
  | nil =>
    simp only [hchildren, Except.ok.injEq] at h
    rw [← h]
    rfl
  | cons subNode rest =>
    obtain ⟨cellList, hcells⟩ := loadCells_isOk junk 0 (subNode :: rest)
    by_cases hid : subNode.name = "ID"
    · cases hkey : subNode.xmlNodeGetContent with
      | none => simp [hchildren, loadModelId, hid, hkey, bind, Except.bind] at h
      | some szKey =>
        simp only [hchildren, loadModelId, hid, hkey, hcells, bind, Except.bind, pure, Except.pure,
          if_true, Except.ok.injEq] at h
        simp [← h, hid, hkey]
    · simp only [hchildren, loadModelId, hid, hcells, bind, Except.bind, pure, Except.pure,
        if_false, Except.ok.injEq] at h
      simp [← h, hid]

theorem loadNode_modol (h : curNode.name = "Modol") : loadNode junk curNode s =
    (loadModel junk curNode).map fun model ↦
      { s with modelList := s.modelList ++ model.toList } := by
  rw [loadNode, h]
  cases loadModel junk curNode <;> rfl

theorem loadNode_buildList (h : curNode.name = "BuildList") : loadNode junk curNode s =
    (fillInfo buildInfo curNode 0 1 junk .zero).map fun r ↦
      { s with buildList := addBuild s.modelList s.buildList r.1 } := by
  rw [loadNode, h]
  cases fillInfo buildInfo curNode 0 1 junk .zero <;> rfl

theorem loadNode_netItem (h : curNode.name = "NETITEM") : loadNode junk curNode s =
    (loadNetItem junk curNode s.mem s.netItemIndex).map fun mem ↦
      { s with mem, netItemIndex := s.netItemIndex + 1 } := by
  rw [loadNode, h]
  cases loadNetItem junk curNode s.mem s.netItemIndex <;> rfl

theorem loadNode_guard {i : ℕ} (hi : i < 3) (h : areaName[i + 2]? = some curNode.name) :
    loadNode junk curNode s =
      (loadGuard junk curNode i s.mem).map fun mem ↦ { s with mem } := by
  have hidx : areaName.idxOf curNode.name = i + 2 := by
    match i with
    | 0 | 1 | 2 => rw [← Option.some.inj h]; decide
  rw [loadNode, hidx]
  match i with
  | 0 => cases loadGuard junk curNode 0 s.mem <;> rfl
  | 1 => cases loadGuard junk curNode 1 s.mem <;> rfl
  | 2 => cases loadGuard junk curNode 2 s.mem <;> rfl

/-- The other elements only write to the memory of the area. -/
theorem loadNode_other (junk : Junk) (s : Loader)
    (h : curNode.name ∉ ["Modol", "BuildList", "NETITEM"]) :
    ∃ mem, loadNode junk curNode s = .ok { s with mem } := by
  have hguard (i : ℕ) : ∃ mem, loadGuard junk curNode i s.mem = .ok mem := by
    obtain ⟨r, hr⟩ := fillInfo_isOk (by decide : ∀ key ∈ guardInfo, isNet key = false)
      curNode (guardAddr i) 1 junk s.mem
    exact ⟨r.1, by rw [loadGuard, hr]; rfl⟩
  by_cases hname : curNode.name ∈ areaName
  · simp only [areaName, List.mem_cons, List.not_mem_nil, or_false] at hname
    simp only [List.mem_cons, List.not_mem_nil, or_false, not_or] at h
    rcases hname with hn | hn | hn | hn | hn | hn | hn | hn | hn | hn
    · exact absurd hn h.1
    · exact absurd hn h.2.1
    · obtain ⟨mem, hmem⟩ := hguard 0
      exact ⟨mem, by rw [loadNode_guard (i := 0) (by decide) (by rw [hn]; rfl), hmem]; rfl⟩
    · obtain ⟨mem, hmem⟩ := hguard 1
      exact ⟨mem, by rw [loadNode_guard (i := 1) (by decide) (by rw [hn]; rfl), hmem]; rfl⟩
    · obtain ⟨mem, hmem⟩ := hguard 2
      exact ⟨mem, by rw [loadNode_guard (i := 2) (by decide) (by rw [hn]; rfl), hmem]; rfl⟩
    · exact absurd hn h.2.2
    · exact ⟨s.mem, by rw [loadNode, hn]; rfl⟩
    · exact ⟨_, by rw [loadNode, hn]; rfl⟩
    · exact ⟨_, by rw [loadNode, hn]; rfl⟩
    · exact absurd hn h.2.2
  · refine ⟨s.mem, ?_⟩
    rw [loadNode, List.idxOf_eq_length hname]
    rfl

theorem loadNetItem_isOk_iff {mem : Mem} {netItemIndex : ℕ} :
    (∃ mem', loadNetItem junk curNode mem netItemIndex = .ok mem') ↔
      netItemIndex < 3 ∧ ∀ key ∈ netItemInfo, ¬ Overflows curNode key := by
  rw [loadNetItem, ← fillInfo_isOk_iff netItemInfo curNode (netItemAddr netItemIndex) 4 junk mem]
  have hroom : netItemAddr netItemIndex + 16 ≤ buildListAddr ↔ netItemIndex < 3 := by
    simp only [netItemAddr, buildListAddr]
    omega
  by_cases hlt : netItemIndex < 3
  · rw [if_pos (hroom.2 hlt)]
    cases fillInfo netItemInfo curNode (netItemAddr netItemIndex) 4 junk mem <;>
      simp [hlt, bind, Except.bind, pure, Except.pure]
  · rw [if_neg (hroom.not.2 hlt)]
    simp [hlt]

/-- **An element can be loaded** exactly if it is loadable and, if it is a net item, there is room
for it. -/
theorem loadNode_isOk_iff (junk : Junk) : (∃ s', loadNode junk curNode s = .ok s') ↔
    Loadable curNode ∧ (curNode.name = "NETITEM" → s.netItemIndex < 3) := by
  -- only models, builds and net items can fail; the rest writes numbers into the area
  by_cases hother : curNode.name ∈ ["Modol", "BuildList", "NETITEM"]
  · simp only [List.mem_cons, List.not_mem_nil, or_false] at hother
    rcases hother with hn | hn | hn
    · rw [loadNode_modol hn, exists_map_eq_ok, loadModel_isOk_iff]
      simp [Loadable, hn]
    · rw [loadNode_buildList hn, exists_map_eq_ok]
      have hok := fillInfo_isOk (by decide : ∀ key ∈ buildInfo, isNet key = false) curNode 0 1 junk
        .zero
      simp [Loadable, hn, hok]
    · rw [loadNode_netItem hn, exists_map_eq_ok, loadNetItem_isOk_iff]
      simp [Loadable, hn, and_comm]
  · obtain ⟨mem, hmem⟩ := loadNode_other junk s hother
    simp only [List.mem_cons, List.not_mem_nil, or_false, not_or] at hother
    simp [Loadable, hother, hmem]

/-- **What an element does** to the variables of the loop. -/
theorem loadNode_cases (h : loadNode junk curNode s = .ok s') :
    (curNode.name = "Modol" ∧ ∃ model : Option Model, model.map Model.id = storedId curNode ∧
      s' = { s with modelList := s.modelList ++ model.toList }) ∨
    (curNode.name = "BuildList" ∧ ∃ r, fillInfo buildInfo curNode 0 1 junk .zero = .ok r ∧
      s' = { s with buildList := addBuild s.modelList s.buildList r.1 }) ∨
    (curNode.name = "NETITEM" ∧ ∃ mem,
      s' = { s with mem, netItemIndex := s.netItemIndex + 1 }) ∨
    (curNode.name ∉ ["Modol", "BuildList", "NETITEM"] ∧ ∃ mem, s' = { s with mem }) := by
  by_cases hother : curNode.name ∈ ["Modol", "BuildList", "NETITEM"]
  · simp only [List.mem_cons, List.not_mem_nil, or_false] at hother
    rcases hother with hn | hn | hn
    · rw [loadNode_modol hn] at h
      obtain ⟨model, hmodel, rfl⟩ := map_eq_ok h
      exact Or.inl ⟨hn, model, map_id_loadModel hmodel, rfl⟩
    · rw [loadNode_buildList hn] at h
      obtain ⟨r, hr, rfl⟩ := map_eq_ok h
      exact Or.inr (Or.inl ⟨hn, r, hr, rfl⟩)
    · rw [loadNode_netItem hn] at h
      obtain ⟨mem, -, rfl⟩ := map_eq_ok h
      exact Or.inr (Or.inr (Or.inl ⟨hn, mem, rfl⟩))
  · obtain ⟨mem, hmem⟩ := loadNode_other junk s hother
    rw [hmem] at h
    exact Or.inr (Or.inr (Or.inr ⟨hother, mem, (Except.ok.inj h).symm⟩))

end Step

/-! ### What the loop does -/

section Run

variable {junk : Junk} {i : ℕ} {curNode : XmlNode} {nodes : List XmlNode} {s s' : Loader}

/-- The number of `NETITEM`s. -/
def netItems (nodes : List XmlNode) : ℕ := nodes.countP fun node ↦ node.name = "NETITEM"

theorem netItemIndex_loadNode (h : loadNode junk curNode s = .ok s') :
    s'.netItemIndex = s.netItemIndex + netItems [curNode] := by
  rcases loadNode_cases h with ⟨hn, -, -, rfl⟩ | ⟨hn, -, -, rfl⟩ | ⟨hn, -, rfl⟩ | ⟨hn, -, rfl⟩
  · simp [netItems, hn]
  · simp [netItems, hn]
  · simp [netItems, hn]
  · simp only [List.mem_cons, List.not_mem_nil, or_false, not_or] at hn
    simp [netItems, hn]

theorem loadNodes_cons (h : loadNodes junk i (curNode :: nodes) s = .ok s') :
    ∃ t, loadNode (junk.at i) curNode s = .ok t ∧ loadNodes junk (i + 1) nodes t = .ok s' := by
  rw [loadNodes] at h
  exact bind_eq_ok.1 h

/-- **A document can be loaded** exactly if its elements are loadable and there is room for the net
items. -/
theorem loadNodes_isOk_iff (junk : Junk) (i : ℕ) (nodes : List XmlNode)
    (hindex : s.netItemIndex ≤ 3) :
    (∃ s', loadNodes junk i nodes s = .ok s') ↔
      (∀ node ∈ nodes, Loadable node) ∧ s.netItemIndex + netItems nodes ≤ 3 := by
  induction nodes generalizing i s with
  | nil => simp [loadNodes, netItems, hindex]
  | cons curNode nodes ih =>
    have hcount : netItems (curNode :: nodes) = netItems [curNode] + netItems nodes := by
      rw [netItems, ← List.singleton_append, List.countP_append]
      rfl
    rw [List.forall_mem_cons, hcount]
    constructor
    · rintro ⟨s', h⟩
      obtain ⟨t, hnode, hnodes⟩ := loadNodes_cons h
      have hok := (loadNode_isOk_iff _).1 ⟨t, hnode⟩
      have hidx := netItemIndex_loadNode hnode
      -- the element itself was loaded, so a net item had room and the index stays in bounds
      have ht : t.netItemIndex ≤ 3 := by
        by_cases hnet : curNode.name = "NETITEM"
        · have := hok.2 hnet
          simp only [hidx, netItems, hnet, decide_true, List.countP_singleton, if_true]
          omega
        · simpa [hidx, netItems, hnet] using hindex
      obtain ⟨hrest, hroom⟩ := (ih _ ht).1 ⟨s', hnodes⟩
      exact ⟨⟨hok.1, hrest⟩, by omega⟩
    · rintro ⟨⟨hload, hrest⟩, hroom⟩
      have hnet : curNode.name = "NETITEM" → s.netItemIndex < 3 := fun hn ↦ by
        have : netItems [curNode] = 1 := by simp [netItems, hn]
        omega
      obtain ⟨t, hnode⟩ := (loadNode_isOk_iff (junk.at i)).2 ⟨hload, hnet⟩
      have hidx := netItemIndex_loadNode hnode
      obtain ⟨s', hnodes⟩ := (ih (i + 1) (s := t) (by omega)).2 ⟨hrest, by omega⟩
      exact ⟨s', by rw [loadNodes, hnode]; exact hnodes⟩

end Run

end DoorIntercom
