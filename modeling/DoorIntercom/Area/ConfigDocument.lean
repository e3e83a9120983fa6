import DoorIntercom.Area.AddressText
import DoorIntercom.Area.ElementFrame
import DoorIntercom.Area.LoadedBuildings
import Mathlib.Data.List.TFAE
import Mathlib.Tactic.TFAE

/-!
# Configurations and their documents

The repository only reads configurations. `document` writes one as the document that the loader's
tables of names ask for, every number in decimal and every address with dots, and this module
answers which configurations come back from their document.

Two habits of the loader stand in the way: it merges builds with the same `MODID`, and it raises the
start of a net item to its gateway. A configuration on which neither has an effect is `Normal`. What
is loaded from any document is normal, and a normal configuration is loaded back from its own
document: so a configuration that has been loaded once survives writing and loading
(`getAreaInfo_document_tfae`). What the stack holds does not matter, but an `int` that is written
into the byte `index` must not hit the text of an address (`Junk.KeepsText`).
-/

namespace DoorIntercom

open AreaBlock FallibleRun

/-! ### The document of a configuration -/

/-- An element with a number. -/
def XmlNode.numeral (key : String) (n : UChar) : XmlNode :=
  .element key [.text (Nat.toDigits 10 n.toNat)]

/-- An element with a number for every name of a table. -/
def XmlNode.record (name : String) (info : List String) (values : List UChar) : XmlNode :=
  .element name (List.zipWith numeral info values)

/-- An element with an address. -/
def XmlNode.address (key : String) (ipAddress : IpAddress) : XmlNode :=
  .element key [.text (addressText ipAddress)]

/-- An `Item`. -/
def Cell.toXml (cell : Cell) : XmlNode :=
  .record "Item" cellInfo [cell.cellBegin, cell.cellEnd, cell.floorBegin, cell.floorEnd,
    cell.roomBegin, cell.roomEnd, cell.outDoorCount, cell.inDoorCount, cell.secondOutDoorCount]

/-- A `Modol`, the `ID` first. -/
def Model.toXml (model : Model) : XmlNode :=
  .element "Modol" (.numeral "ID" model.id :: model.cellList.map Cell.toXml)

/-- A `BuildList`. -/
def Build.toXml (build : Build) : XmlNode :=
  .record "BuildList" buildInfo [build.IPID, build.buildBegin, build.buildEnd, build.MODID]

/-- A `MANAGE`, an `AREAGATE` or a `GUARD`. -/
def Guard.toXml (name : String) (guard : Guard) : XmlNode :=
  .record name guardInfo [guard.IPID, guard.indexBegin, guard.indexEnd]

/-- A `NETITEM`. -/
def NetItem.toXml (item : NetItem) : XmlNode :=
  .element "NETITEM" [.address "NETSTART" item.netStart, .address "NETEND" item.netEnd,
    .address "NETGW" item.netGW, .element "IPID" [.text (Decimal.ofInt item.IPID.toInt)]]

/-- The elements of a configuration, the models before the builds. -/
def Area.nodes (area : Area) : List XmlNode :=
  area.buildList.map (fun build ↦ build.model.toXml) ++ (area.buildList.map Build.toXml ++
    ([(area.guard 0).toXml "MANAGE", (area.guard 1).toXml "AREAGATE",
      (area.guard 2).toXml "GUARD"] ++ (List.ofFn area.netItem).map NetItem.toXml))

/-- The document of a configuration. -/
def Area.document (area : Area) : XmlNode := .element "NETCFG" area.nodes

/-! ### Records -/

section Record

variable {junk : Junk} {info : List String} {values : List UChar} {name : String}

theorem child?_record (hnodup : info.Nodup) {i : ℕ} {key : String} {v : UChar}
    (hkey : info[i]? = some key) (hv : values[i]? = some v) :
    (XmlNode.record name info values).child? key = some (.numeral key v) := by
  show (List.zipWith XmlNode.numeral info values).find? (fun subNode ↦ subNode.name = key) = _
  induction info generalizing i values with
  | nil => simp at hkey
  | cons key' info ih =>
    cases values with
    | nil => simp at hv
    | cons v' values =>
      obtain ⟨hnot, hnodup⟩ := List.nodup_cons.1 hnodup
      rw [List.zipWith_cons_cons]
      cases i with
      | zero =>
        cases hkey
        cases hv
        exact List.find?_cons_of_pos (decide_eq_true rfl)
      | succ i =>
        have hne : ¬ decide ((XmlNode.numeral key' v').name = key) = true := fun heq ↦
          hnot ((of_decide_eq_true heq : key' = key) ▸ List.mem_of_getElem? hkey)
        rw [List.find?_cons_of_neg (p := fun subNode : XmlNode ↦ decide (subNode.name = key)) hne]
        exact ih hnodup hkey hv

/-- A number in a child of its own is read back. -/
theorem content_record (hnodup : info.Nodup) {i : ℕ} {key : String} {v : UChar}
    (hkey : info[i]? = some key) (hv : values[i]? = some v) :
    ((XmlNode.record name info values).child? key).bind XmlNode.firstContent =
      some (Nat.toDigits 10 v.toNat) := by
  rw [child?_record hnodup hkey hv]
  rfl

/-- **A record is read back** where it is filled into, and leaves what is in front of it alone. -/
theorem fillInfo_record (j : Junk) (name : String) (info : List String) (values : List UChar)
    (hnet : ∀ key ∈ info, isNet key = false) (hnodup : info.Nodup)
    (hlen : values.length = info.length) (addr : ℕ) (mem : Mem) :
    ∃ r, fillInfo info (.record name info values) addr 1 j mem = .ok r ∧
      (∀ i v, values[i]? = some v → r.1 (addr + i) = v) ∧ ∀ a < addr, r.1 a = mem a := by
  have hempty (key : String) (hkey : key ∈ info) :
      (XmlNode.record name info values).isEmpty key = false := by
    obtain ⟨i, hi, hget⟩ := List.getElem_of_mem hkey
    rw [XmlNode.isEmpty, child?_record hnodup (List.getElem?_eq_some_iff.2 ⟨hi, hget⟩)
      (List.getElem?_eq_getElem (hlen ▸ hi))]
    rfl
  obtain ⟨r, hr, hmem, hlt⟩ := fillInfo_apply (.record name info values) j hnet addr mem
  refine ⟨r, hr, fun i v hv ↦ ?_, hlt⟩
  obtain ⟨hi, -⟩ := List.getElem?_eq_some_iff.1 hv
  have hkey := List.getElem?_eq_getElem (hlen ▸ hi)
  have hbyte : ((leftIn (.record name info values) j info i (mem (addr + i))).toNat : ℤ) =
      (v.toNat : ℤ) :=
    leftIn_of_content hempty hkey (content_record hnodup hkey hv) (sscanf_toDigits v.toNat)
      (Int.natCast_nonneg _) (by have := v.isLt; omega) _
  rw [hmem]
  exact BitVec.eq_of_toNat_eq (by exact_mod_cast hbyte)

end Record

/-! ### Models -/

section Models

variable {junk : Junk}

theorem loadCells_toXml (i : ℕ) (cellList : List Cell) :
    loadCells junk i (cellList.map Cell.toXml) = .ok cellList := by
  induction cellList generalizing i with
  | nil => rfl
  | cons cell cellList ih =>
    obtain ⟨r, hr, hvalues, -⟩ := fillInfo_record (junk.at i) "Item" cellInfo
      [cell.cellBegin, cell.cellEnd, cell.floorBegin, cell.floorEnd, cell.roomBegin, cell.roomEnd,
        cell.outDoorCount, cell.inDoorCount, cell.secondOutDoorCount]
      (by decide) (by decide) rfl 0 .zero
    have hcell : readCell r.1 = cell := by
      have hbyte (k : ℕ) (v : UChar) := Nat.zero_add k ▸ hvalues k v
      rw [readCell, hbyte 0 _ rfl, hbyte 1 _ rfl, hbyte 2 _ rfl, hbyte 3 _ rfl, hbyte 4 _ rfl,
        hbyte 5 _ rfl, hbyte 6 _ rfl, hbyte 7 _ rfl, hbyte 8 _ rfl]
    have hname : cell.toXml.name = "Item" := rfl
    rw [List.map_cons, loadCells, if_pos hname, Cell.toXml, hr, ih]
    exact congrArg (fun cell ↦ Except.ok (cell :: cellList)) hcell

/-- **A model is loaded back.** -/
theorem loadModel_toXml (model : Model) : loadModel junk model.toXml = .ok (some model) := by
  have hid : loadModelId (.numeral "ID" model.id) = .ok model.id := by
    have hn : sscanf (Nat.toDigits 10 model.id.toNat ++ []) = some (model.id.toNat : ℤ) := by
      rw [List.append_nil, sscanf_toDigits]
    show Except.ok ((sscanf (Nat.toDigits 10 model.id.toNat ++ [])).elim 0 _) = _
    rw [hn, Option.elim_some, setWidth_toInt_toNat]
  have hcells : loadCells junk 0 (.numeral "ID" model.id :: model.cellList.map Cell.toXml) =
      .ok model.cellList := by
    have hname : (XmlNode.numeral "ID" model.id).name ≠ "Item" := by
      show "ID" ≠ "Item"
      decide
    rw [loadCells, if_neg hname, loadCells_toXml]
  simp only [loadModel, Model.toXml, XmlNode.children, hid, hcells]
  rfl

end Models

/-! ### Net items -/

section NetItems

variable {junk : Junk} {node subNode : XmlNode} {mem : Mem}

/-- An address is stored from its text. -/
theorem fillKey_address {key : String} {size : ℕ} {s : Fill} {ipAddress : IpAddress}
    (hnet : isNet key = true) (h : node.child? key = some (.address key ipAddress)) :
    fillKey node size junk key s =
      .ok ⟨storeIpAddress junk s.mem s.contentAddr (addressText ipAddress), s.contentAddr + 4,
        s.keyIndex + 1⟩ := by
  have hlen := length_addressText_le ipAddress
  have hcontent : (XmlNode.address key ipAddress).firstContent = some (addressText ipAddress) := rfl
  simp only [fillKey, h, hcontent, hnet, if_true]
  rw [if_neg (by omega)]

theorem readIpAddress_addressText (hjunk : junk.KeepsText) (addr : ℕ) (ipAddress : IpAddress) :
    readIpAddress (storeIpAddress junk mem addr (addressText ipAddress)) addr = ipAddress := by
  rw [addressText, readIpAddress_dotted _ _ _ _ _ _ hjunk]
  exact octets_eta ipAddress

/-- An address behind another one is stored without changing it. -/
theorem readIpAddress_storeIpAddress {addr addr' : ℕ} {szKeyCopy : List Char}
    (h : addr + 4 ≤ addr') :
    readIpAddress (storeIpAddress junk mem addr' szKeyCopy) addr = readIpAddress mem addr := by
  funext j
  exact storeIpAddress_of_notMem _ _ (Or.inl (by omega))

/-- So is an `int`. -/
theorem readIpAddress_storeInt {addr addr' : ℕ} {v : Word} (h : addr + 4 ≤ addr') :
    readIpAddress (mem.storeInt addr' v) addr = readIpAddress mem addr := by
  funext j
  exact storeInt_of_notMem _ _ (Or.inl (by omega))

theorem readInt_storeInt (addr : ℕ) (v : Word) : readInt (mem.storeInt addr v) addr = v := by
  have hbyte (j : ℕ) (hj : j < 4) : mem.storeInt addr v (addr + j) = byteOf v j := by
    rw [storeInt_apply, if_pos (by omega), Nat.add_sub_cancel_left]
  have h0 : mem.storeInt addr v addr = byteOf v 0 := hbyte 0 (by decide)
  rw [readInt, h0, hbyte 1 (by decide), hbyte 2 (by decide), hbyte 3 (by decide)]
  ext i hi
  simp only [byteOf, BitVec.getElem_append, BitVec.getElem_setWidth, BitVec.getLsbD_ushiftRight]
  split_ifs <;> simp only [Nat.mul_zero, Nat.zero_add, ← BitVec.getLsbD_eq_getElem] <;> congr 1 <;>
    omega

/-- The text of an `int` is read back. -/
theorem toInt_toInt (v : Word) : toInt v.toInt = v := by
  have hlo := BitVec.le_toInt v
  have hhi := BitVec.toInt_lt (x := v)
  rw [toInt, min_eq_left (by omega), max_eq_right (by omega), BitVec.ofInt_toInt]

/-- **A net item is read back** before its start is raised. -/
theorem fillInfo_netItem (hjunk : junk.KeepsText) (item : NetItem) (addr : ℕ) (mem : Mem) :
    ∃ r, fillInfo netItemInfo item.toXml addr 4 junk mem = .ok r ∧
      readIpAddress r.1 addr = item.netStart ∧ readIpAddress r.1 (addr + 4) = item.netEnd ∧
        readIpAddress r.1 (addr + 8) = item.netGW ∧ readInt r.1 (addr + 12) = item.IPID := by
  have hipid : item.toXml.number "IPID" = some item.IPID.toInt := sscanf_ofInt item.IPID.toInt
  refine ⟨(((storeIpAddress (junk.at 2) (storeIpAddress (junk.at 1) (storeIpAddress (junk.at 0) mem
    addr (addressText item.netStart)) (addr + 4) (addressText item.netEnd)) (addr + 8)
      (addressText item.netGW)).storeInt (addr + 12) item.IPID), 4),
    ?_, ?_, ?_, ?_, readInt_storeInt ..⟩
  · rw [fillInfo]
    simp only [netItemInfo, fillKeys,
      fillKey_address (by decide) (rfl : item.toXml.child? "NETSTART" = _),
      fillKey_address (by decide) (rfl : item.toXml.child? "NETEND" = _),
      fillKey_address (by decide) (rfl : item.toXml.child? "NETGW" = _),
      fillKey_of_number "IPID" (by decide) hipid, toInt_toInt, bind, Except.bind, pure, Except.pure]
  -- what is stored later lies behind
  · dsimp only
    rw [readIpAddress_storeInt (by omega), readIpAddress_storeIpAddress (by omega),
      readIpAddress_storeIpAddress (by omega), readIpAddress_addressText (hjunk.at 0)]
  · dsimp only
    rw [readIpAddress_storeInt (by omega), readIpAddress_storeIpAddress (by omega),
      readIpAddress_addressText (hjunk.at 1)]
  · dsimp only
    rw [readIpAddress_storeInt (by omega), readIpAddress_addressText (hjunk.at 2)]

end NetItems

/-! ### What comes back from a document -/

/-- The guard in a record. -/
def readGuard (mem : Mem) (addr : ℕ) : Guard := ⟨mem addr, mem (addr + 1), mem (addr + 2)⟩

/-- The net item in a record. -/
def readNetItem (mem : Mem) (addr : ℕ) : NetItem :=
  ⟨readIpAddress mem addr, readIpAddress mem (addr + 4), readIpAddress mem (addr + 8),
    readInt mem (addr + 12)⟩

/-- The start of a net item is not raised. -/
def NetItem.Raised (item : NetItem) : Prop := item.netGW 0 ≠ 0 → item.netGW 3 ≤ item.netStart 3

/-- A configuration on which neither merging nor raising has an effect. -/
structure Area.Normal (area : Area) : Prop where
  nodup : (area.buildList.map Build.MODID).Nodup
  model : ∀ build ∈ area.buildList, build.model.id = build.MODID
  raised : ∀ i, (area.netItem i).Raised

section Elements

variable {junk : Junk} {s : Loader}

theorem readGuard_congr {mem mem' : Mem} {addr : ℕ} (h : ∀ a < addr + 3, mem' a = mem a) :
    readGuard mem' addr = readGuard mem addr := by
  rw [readGuard, readGuard, h addr (by omega), h (addr + 1) (by omega), h (addr + 2) (by omega)]

theorem readNetItem_congr {mem mem' : Mem} {addr : ℕ}
    (h : ∀ a, addr ≤ a → a < addr + 16 → mem' a = mem a) :
    readNetItem mem' addr = readNetItem mem addr := by
  have haddress (o : ℕ) (ho : o ≤ 8) :
      readIpAddress mem' (addr + o) = readIpAddress mem (addr + o) :=
    funext fun j ↦ h _ (by omega) (by omega)
  have hint : readInt mem' (addr + 12) = readInt mem (addr + 12) := by
    rw [readInt, readInt, h (addr + 12) (by omega) (by omega),
      h (addr + 12 + 1) (by omega) (by omega), h (addr + 12 + 2) (by omega) (by omega),
      h (addr + 12 + 3) (by omega) (by omega)]
  have h0 : readIpAddress mem' addr = readIpAddress mem addr := haddress 0 (by decide)
  rw [readNetItem, readNetItem, h0, haddress 4 (by decide), haddress 8 (by decide), hint]

/-- A guard is loaded back, and the guards in front of it stay. -/
theorem loadNode_guardToXml (junk : Junk) (s : Loader) {i : ℕ} (hi : i < 3) {name : String}
    (hname : areaName[i + 2]? = some name) (guard : Guard) :
    ∃ mem, loadNode junk (guard.toXml name) s = .ok { s with mem } ∧
      readGuard mem (guardAddr i) = guard ∧ ∀ a < guardAddr i, mem a = s.mem a := by
  obtain ⟨r, hr, hvalues, hlt⟩ := fillInfo_record junk name guardInfo
    [guard.IPID, guard.indexBegin, guard.indexEnd]
    (by decide) (by decide) rfl (guardAddr i) s.mem
  refine ⟨r.1, ?_, ?_, hlt⟩
  · rw [Guard.toXml, loadNode_guard hi (show areaName[i + 2]? = some (XmlNode.record ..).name from
      hname), loadGuard, hr]
    rfl
  · have h0 : r.1 (guardAddr i) = guard.IPID := hvalues 0 _ rfl
    rw [readGuard, h0, hvalues 1 _ rfl, hvalues 2 _ rfl]

/-- Raising changes nothing where the start is raised already. -/
theorem raiseStart_of_raised {mem : Mem} {addr : ℕ} (h : (readNetItem mem addr).Raised) :
    raiseStart mem addr (addr + 8) = mem := by
  rw [raiseStart]
  split_ifs with hgw
  · have hle : mem (addr + 8 + 3) ≤ mem (addr + 3) := h hgw.1
    rw [BitVec.le_antisymm hle hgw.2, Function.update_eq_self]
  · rfl

/-- **A net item is loaded back** into its entry. -/
theorem loadNode_netItemToXml (hjunk : junk.KeepsText) (s : Loader) (item : NetItem)
    (hraised : item.Raised) (hindex : s.netItemIndex < 3) :
    ∃ mem, loadNode junk item.toXml s =
        .ok { s with mem, netItemIndex := s.netItemIndex + 1 } ∧
      readNetItem mem (netItemAddr s.netItemIndex) = item ∧
        ∀ a, a < netItemAddr s.netItemIndex ∨ netItemAddr s.netItemIndex + 16 ≤ a →
          mem a = s.mem a := by
  obtain ⟨r, hr, hstart, hend, hgw, hipid⟩ :=
    fillInfo_netItem hjunk item (netItemAddr s.netItemIndex) s.mem
  have hread : readNetItem r.1 (netItemAddr s.netItemIndex) = item := by
    rw [readNetItem, hstart, hend, hgw, hipid]
  have hload : loadNetItem junk item.toXml s.mem s.netItemIndex = .ok r.1 := by
    have hroom : netItemAddr s.netItemIndex + 16 ≤ buildListAddr := by
      simp only [netItemAddr, buildListAddr]
      omega
    rw [loadNetItem, if_pos hroom, hr]
    exact congrArg Except.ok (raiseStart_of_raised (by rw [hread]; exact hraised))
  refine ⟨r.1, ?_, hread, fun a ha ↦ loadNetItem_frame hload ha⟩
  rw [loadNode_netItem rfl, hload]
  rfl

theorem loadNodes_append (i : ℕ) (nodes nodes' : List XmlNode) :
    loadNodes junk i (nodes ++ nodes') s =
      loadNodes junk i nodes s >>= loadNodes junk (i + nodes.length) nodes' := by
  induction nodes generalizing i s with
  | nil => rfl
  | cons curNode nodes ih =>
    rw [List.cons_append, loadNodes, loadNodes, List.length_cons]
    cases loadNode (junk.at i) curNode s with
    | error e => rfl
    | ok s' =>
      show loadNodes junk (i + 1) (nodes ++ nodes') s' = loadNodes junk (i + 1) nodes s' >>= _
      rw [ih, Nat.add_right_comm, Nat.add_assoc]

theorem loadNodes_models (i : ℕ) (models : List Model) :
    loadNodes junk i (models.map Model.toXml) s =
      .ok { s with modelList := s.modelList ++ models } := by
  induction models generalizing i s with
  | nil => rw [List.append_nil]; rfl
  | cons model models ih =>
    rw [List.map_cons, loadNodes, loadNode_modol rfl, loadModel_toXml]
    show loadNodes junk (i + 1) (models.map Model.toXml) _ = _
    rw [ih]
    simp

/-- **Builds are loaded back** if their numbers are new and the models are there. -/
theorem loadNodes_builds (i : ℕ) (builds : List Build)
    (hnodup : ((s.buildList ++ builds).map Build.MODID).Nodup)
    (hmodel : ∀ build ∈ builds,
      s.modelList.find? (fun model ↦ model.id = build.MODID) = some build.model) :
    loadNodes junk i (builds.map Build.toXml) s =
      .ok { s with buildList := s.buildList ++ builds } := by
  induction builds generalizing i s with
  | nil => rw [List.append_nil]; rfl
  | cons build builds ih =>
    obtain ⟨r, hr, hvalues, -⟩ := fillInfo_record (junk.at i) "BuildList" buildInfo
      [build.IPID, build.buildBegin, build.buildEnd, build.MODID]
      (by decide) (by decide) rfl 0 .zero
    have hbyte (k : ℕ) (v : UChar) := Nat.zero_add k ▸ hvalues k v
    have hmodid : r.1 3 = build.MODID := hbyte 3 _ rfl
    have hread : readBuild r.1 build.model = build := by
      rw [readBuild, hbyte 0 _ rfl, hbyte 1 _ rfl, hbyte 2 _ rfl, hmodid]
    have hnew : s.buildList.find? (fun existBuild ↦ existBuild.MODID = r.1 3) = none := by
      rw [List.find?_eq_none]
      intro existBuild hexist heq
      rw [decide_eq_true_eq, hmodid] at heq
      rw [List.map_append, List.map_cons, List.nodup_append] at hnodup
      exact hnodup.2.2 _ (List.mem_map_of_mem hexist) _ List.mem_cons_self heq
    have hadd : addBuild s.modelList s.buildList r.1 = s.buildList ++ [build] := by
      rw [addBuild_of_not_exists hnew, hmodid, hmodel build List.mem_cons_self, Option.map_some,
        hread]
      rfl
    rw [List.map_cons, loadNodes, loadNode_buildList rfl, Build.toXml, hr]
    show loadNodes junk (i + 1) (builds.map Build.toXml)
      { s with buildList := addBuild s.modelList s.buildList r.1 } = _
    rw [hadd, ih (s := { s with buildList := s.buildList ++ [build] }) (i + 1)
      (by simpa using hnodup) fun b hb ↦ hmodel b (List.mem_cons_of_mem _ hb)]
    simp

end Elements

/-! ### Writing and loading -/

/-- The block that is loaded from a document. -/
theorem getAreaInfo_eq {junk : Junk} {nodes : List XmlNode} {s : Loader}
    (h : loadNodes junk 0 nodes .start = .ok s) :
    getAreaInfo junk (some (.element "NETCFG" nodes)) = .ok (some ⟨s.mem, s.buildList⟩) := by
  simp only [getAreaInfo, XmlNode.name, XmlNode.children, h, if_true]
  rfl

/-- An element that is found by its key is found by the key of the model. -/
theorem find?_model_of_nodup {builds : List Build} (hnodup : (builds.map Build.MODID).Nodup)
    (hmodel : ∀ build ∈ builds, build.model.id = build.MODID) {build : Build}
    (hbuild : build ∈ builds) :
    (builds.map Build.model).find? (fun model ↦ model.id = build.MODID) = some build.model := by
  have hids : (builds.map Build.model).map Model.id = builds.map Build.MODID := by
    rw [List.map_map]
    exact List.map_congr_left hmodel
  cases hfind : (builds.map Build.model).find? fun model ↦ model.id = build.MODID with
  | none =>
    exact absurd (hmodel build hbuild)
      (by simpa using List.find?_eq_none.1 hfind _ (List.mem_map_of_mem hbuild))
  | some model =>
    have hid : model.id = build.MODID := by simpa using List.find?_some hfind
    have hinj := List.inj_on_of_nodup_map (hids ▸ hnodup)
    rw [hinj (List.mem_of_find?_eq_some hfind) (List.mem_map_of_mem hbuild)
      (hid.trans (hmodel build hbuild).symm)]

/-- **The records are loaded back** by the elements behind the builds. -/
theorem loadNodes_records {area : Area} (h : area.Normal) {junk : Junk} (hjunk : junk.KeepsText)
    (k : ℕ) (modelList : List Model) :
    ∃ mem, loadNodes junk k ([(area.guard 0).toXml "MANAGE", (area.guard 1).toXml "AREAGATE",
          (area.guard 2).toXml "GUARD"] ++ (List.ofFn area.netItem).map NetItem.toXml)
        ⟨.zero, area.buildList, modelList, 0⟩ = .ok ⟨mem, area.buildList, modelList, 2⟩ ∧
      AreaBlock.area ⟨mem, area.buildList⟩ = area := by
  obtain ⟨m₀, hm₀, hg₀, -⟩ := loadNode_guardToXml (junk.at k)
    ⟨.zero, area.buildList, modelList, 0⟩ (i := 0) (by decide) rfl (area.guard 0)
  obtain ⟨m₁, hm₁, hg₁, hlt₁⟩ := loadNode_guardToXml (junk.at (k + 1))
    ⟨m₀, area.buildList, modelList, 0⟩ (i := 1) (by decide) rfl (area.guard 1)
  obtain ⟨m₂, hm₂, hg₂, hlt₂⟩ := loadNode_guardToXml (junk.at (k + 1 + 1))
    ⟨m₁, area.buildList, modelList, 0⟩ (i := 2) (by decide) rfl (area.guard 2)
  obtain ⟨m₃, hm₃, hn₀, hout₃⟩ := loadNode_netItemToXml (hjunk.at (k + 1 + 1 + 1))
    ⟨m₂, area.buildList, modelList, 0⟩ _ (h.raised 0) (Nat.zero_lt_succ 2)
  obtain ⟨m₄, hm₄, hn₁, hout₄⟩ := loadNode_netItemToXml (hjunk.at (k + 1 + 1 + 1 + 1))
    ⟨m₃, area.buildList, modelList, 1⟩ _ (h.raised 1) (Nat.one_lt_succ_succ 1)
  refine ⟨m₄, ?_, ?_⟩
  · have hitems : (List.ofFn area.netItem).map NetItem.toXml =
        [(area.netItem 0).toXml, (area.netItem 1).toXml] := rfl
    rw [hitems]
    simp only [List.cons_append, List.nil_append, loadNodes, hm₀, hm₁, hm₂, hm₃, hm₄, bind,
      Except.bind]
  · -- every later element writes behind a guard, and outside the first entry
    have hnets (a : ℕ) (ha : a < 16) : m₄ a = m₂ a :=
      (hout₄ a (Or.inl (ha.trans (by decide : 16 < netItemAddr 1)))).trans (hout₃ a (Or.inl ha))
    have hguard₂ : readGuard m₄ (guardAddr 2) = area.guard 2 :=
      (readGuard_congr fun a ha ↦ hnets a (ha.trans (by decide))).trans hg₂
    have hguard₁ : readGuard m₄ (guardAddr 1) = area.guard 1 :=
      (readGuard_congr fun a ha ↦ (hnets a (ha.trans (by decide))).trans (hlt₂ a ha)).trans hg₁
    have hguard₀ : readGuard m₄ (guardAddr 0) = area.guard 0 :=
      (readGuard_congr fun a ha ↦ ((hnets a (ha.trans (by decide))).trans
        (hlt₂ a (ha.trans (by decide)))).trans (hlt₁ a ha)).trans hg₀
    have hitem₀ : readNetItem m₄ (netItemAddr 0) = area.netItem 0 :=
      (readNetItem_congr fun a _ ha ↦ hout₄ a (Or.inl ha)).trans hn₀
    have hguard : ∀ i : Fin 3, readGuard m₄ (guardAddr i) = area.guard i :=
      Fin.forall_fin_succ.2 ⟨hguard₀, Fin.forall_fin_succ.2 ⟨hguard₁,
        Fin.forall_fin_succ.2 ⟨hguard₂, fun i ↦ i.elim0⟩⟩⟩
    have hitem : ∀ i : Fin 2, readNetItem m₄ (netItemAddr i) = area.netItem i :=
      Fin.forall_fin_two.2 ⟨hitem₀, hn₁⟩
    show Area.mk (fun i ↦ readGuard m₄ (guardAddr i)) (fun i ↦ readNetItem m₄ (netItemAddr i))
      area.buildList = area
    rw [funext hguard, funext hitem]

/-- **A normal configuration is loaded back from its document.** -/
theorem Area.Normal.getAreaInfo_document {area : Area} (h : area.Normal) {junk : Junk}
    (hjunk : junk.KeepsText) :
    ∃ block, getAreaInfo junk (some area.document) = .ok (some block) ∧ block.area = area := by
  have hmodels : area.buildList.map (fun build ↦ build.model.toXml) =
      (area.buildList.map Build.model).map Model.toXml := by
    rw [List.map_map]
    rfl
  have hbuilds (i : ℕ) : loadNodes junk i (area.buildList.map Build.toXml)
      ⟨.zero, [], area.buildList.map Build.model, 0⟩ =
        .ok ⟨.zero, area.buildList, area.buildList.map Build.model, 0⟩ :=
    loadNodes_builds i area.buildList h.nodup fun build hbuild ↦
      find?_model_of_nodup h.nodup h.model hbuild
  have hfirst : loadNodes junk 0 (area.buildList.map fun build ↦ build.model.toXml) .start =
      .ok ⟨.zero, [], area.buildList.map Build.model, 0⟩ := by
    rw [hmodels, loadNodes_models]
    rfl
  obtain ⟨mem, hrecords, harea⟩ := loadNodes_records h hjunk
    (0 + (area.buildList.map fun build ↦ build.model.toXml).length +
      (area.buildList.map Build.toXml).length) (area.buildList.map Build.model)
  refine ⟨⟨mem, area.buildList⟩, getAreaInfo_eq
    (s := ⟨mem, area.buildList, area.buildList.map Build.model, 2⟩) ?_, harea⟩
  rw [Area.nodes, loadNodes_append, hfirst, ok_bind, loadNodes_append, hbuilds, ok_bind, hrecords]

/-! ### What is loaded -/

section Loaded

variable {junk : Junk} {e : Junk × XmlNode} {s s' : Loader}

/-- The start of every net item has been raised to its gateway. -/
def Loader.Raised (s : Loader) : Prop := ∀ k < 2, (readNetItem s.mem (netItemAddr k)).Raised

theorem raised_raiseStart (mem : Mem) (addr : ℕ) :
    (readNetItem (raiseStart mem addr (addr + 8)) addr).Raised := by
  intro hgw
  show raiseStart mem addr (addr + 8) (addr + 8 + 3) ≤ raiseStart mem addr (addr + 8) (addr + 3)
  have hgw' : raiseStart mem addr (addr + 8) (addr + 8) ≠ 0 := hgw
  rw [raiseStart] at hgw' ⊢
  split_ifs at hgw' ⊢ with hraise
  · rw [Function.update_self, Function.update_of_ne (by omega)]
    exact BitVec.le_refl _
  · exact (BitVec.le_total _ _).resolve_right fun hle ↦ hraise ⟨hgw', hle⟩

/-- **Every element** leaves the starts raised. -/
theorem Loader.Raised.loadNode {junk : Junk} {node : XmlNode} (h : s.Raised)
    (hnode : loadNode junk node s = .ok s') : s'.Raised := by
  intro k hk
  have hsame (hmem : ∀ a, netItemAddr k ≤ a → a < netItemAddr k + 16 → s'.mem a = s.mem a) :
      (readNetItem s'.mem (netItemAddr k)).Raised := readNetItem_congr hmem ▸ h k hk
  by_cases hguard : ∃ i < 3, IsGuard i (junk, node)
  · obtain ⟨i, hi, hguard⟩ := hguard
    refine hsame fun a ha _ ↦ mem_loadElement_of_isGuard hi hguard hnode (le_trans ?_ ha)
    simp only [netItemAddr]
    omega
  · by_cases hname : node.name = "NETITEM"
    · by_cases hindex : s.netItemIndex = k
      · rw [loadNode_netItem hname] at hnode
        obtain ⟨mem, hmem, rfl⟩ := map_eq_ok hnode
        rw [loadNetItem] at hmem
        split_ifs at hmem
        obtain ⟨r, -, hraise⟩ := bind_eq_ok.1 hmem
        cases hraise
        rw [hindex]
        exact raised_raiseStart _ _
      · refine hsame fun a ha ha' ↦ mem_loadNode_netItem hname hnode ?_
        simp only [netItemAddr] at *
        omega
    · refine hsame fun a _ ha ↦ mem_loadNode_other (fun i hi heq ↦ hguard ⟨i, hi, heq⟩) hname hnode
        (ha.trans_le ?_)
      simp only [netItemAddr, modeMatchAddr]
      omega

/-- **What is loaded is normal**, whatever the document. -/
theorem normal_of_getAreaInfo {root : Option XmlNode} {block : AreaBlock}
    (h : getAreaInfo junk root = .ok (some block)) : block.area.Normal := by
  cases root with
  | none => cases h
  | some root =>
    rw [getAreaInfo] at h
    split_ifs at h
    swap
    · cases h
    obtain ⟨s, hrun, hblock⟩ := bind_eq_ok.1 h
    cases hblock
    rw [loadNodes_eq_runSteps] at hrun
    have hstart : Loader.start.Matched ∧ Loader.start.Raised :=
      ⟨⟨List.nodup_nil, fun _ hmem ↦ absurd hmem List.not_mem_nil⟩, fun _ _ hgw ↦ absurd rfl hgw⟩
    -- both invariants hold of the empty loader and are kept by every element
    obtain ⟨hmatched, hraised⟩ : s.Matched ∧ s.Raised :=
      runSteps_invariant (I := fun s : Loader ↦ s.Matched ∧ s.Raised)
        (fun e s s' hs hstep ↦ ⟨hs.1.loadNode hstep, hs.2.loadNode hstep⟩)
        hstart hrun
    exact ⟨hmatched.nodup, fun build hbuild ↦ (hmatched.model build hbuild).2,
      fun i ↦ hraised i i.isLt⟩

/-- **Writing and loading**: for every configuration it is the same that some document loads as it,
that merging and raising have no effect on it, and that its own document loads as it, whatever the
variables that are not initialised hold and as long as no address is hit while it is read. -/
theorem getAreaInfo_document_tfae (area : Area) : [
    ∃ junk root block, getAreaInfo junk root = .ok (some block) ∧ block.area = area,
    area.Normal,
    ∀ junk : Junk, junk.KeepsText →
      ∃ block, getAreaInfo junk (some area.document) = .ok (some block) ∧
        block.area = area].TFAE := by
  tfae_have 1 → 2
  | ⟨_, _, _, hload, harea⟩ => harea ▸ normal_of_getAreaInfo hload
  tfae_have 2 → 3 := fun h _ hjunk ↦ h.getAreaInfo_document hjunk
  tfae_have 3 → 1 := fun h ↦ ⟨.zero, _, h _ Junk.keepsText_zero⟩
  tfae_finish

end Loaded

end DoorIntercom
