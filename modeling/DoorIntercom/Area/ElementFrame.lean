import DoorIntercom.Area.Fields
import DoorIntercom.Lib.FallibleRun

/-!
# What an element changes

The records of an area lie one behind the other, and `fillInfo` stores four bytes for a field of
one. The last number of a guard element runs over the next guard: the `p + 1` bytes there get the
upper bytes of that number, where `p` is its place (`mem_loadNode_guard`). That changes nothing
exactly if those bytes are there already (`keepsGuards_iff`), as for numbers of one byte while the
next guard is still zero, i.e. as long as the guards come in the order of the records.

A net item stays in its entry (`keepsEntry`), but `netItemIndex` is not bounded, and the third one
is filled over `modeMatch` and `version`.

If every element of a run fits, no element changes another one's part, and the table of guards does
not depend on the order of the elements (`keepsParts_of_fits`): a guard's bytes are then what its
own elements make of them.
-/

namespace DoorIntercom

open AreaBlock FallibleRun

/-! ### The last number -/

/-- The numbers that are stored, with their places. -/
def placedNumbers (node : XmlNode) (junk : Junk) (info : List String) : List (ℕ × Word) :=
  (List.range info.length).filterMap fun k ↦
    (fieldNumber node junk info k).map fun v ↦ (place node info k, v)

/-- The last one of them. -/
def lastNumber (node : XmlNode) (junk : Junk) (info : List String) : Option (ℕ × Word) :=
  (placedNumbers node junk info).getLast?

section LastNumber

variable {node : XmlNode} {junk : Junk} {info : List String} {key : String}

theorem lastNumber_append :
    lastNumber node junk (info ++ [key]) =
      ((storedNumber node (junk.at info.length) key).map fun v ↦
        (place node info info.length, v)).or (lastNumber node junk info) := by
  have hrest : (List.range info.length).filterMap (fun k ↦
      (fieldNumber node junk (info ++ [key]) k).map fun v ↦ (place node (info ++ [key]) k, v)) =
        placedNumbers node junk info := by
    refine List.filterMap_congr fun k hk ↦ ?_
    rw [List.mem_range] at hk
    rw [fieldNumber_append_of_lt hk, place_append_of_le hk.le]
  rw [lastNumber, placedNumbers, List.length_append, List.length_singleton, List.range_succ,
    List.filterMap_append, hrest, List.getLast?_append, lastNumber]
  simp only [List.filterMap_cons, List.filterMap_nil, fieldNumber_append_self,
    place_append_of_le (le_refl info.length)]
  cases storedNumber node (junk.at info.length) key <;> rfl

theorem place_le_place {k k' : ℕ} (h : k ≤ k') : place node info k ≤ place node info k' :=
  (List.take_prefix_take_left h).sublist.countP_le

theorem place_le (node : XmlNode) (info : List String) (k : ℕ) : place node info k ≤ k :=
  List.countP_le_length.trans (List.length_take_le ..)

/-- A number lies at the place of its name. -/
theorem exists_place_of_mem_lastNumber {q : ℕ × Word} (h : q ∈ lastNumber node junk info) :
    ∃ k < info.length, place node info k = q.1 := by
  obtain ⟨k, hk, hq⟩ := List.mem_filterMap.1 (List.mem_of_getLast? h)
  obtain ⟨v, -, rfl⟩ := Option.map_eq_some_iff.1 hq
  exact ⟨k, List.mem_range.1 hk, rfl⟩

/-- **Behind the record**, the last number is the last one that reaches a byte. -/
theorem leftIn_of_length_le {i : ℕ} (h : info.length ≤ i + 1) (old : UChar) :
    leftIn node junk info i old = (lastNumber node junk info).elim old fun q ↦
      if i < q.1 + 4 then byteOf q.2 (i - q.1) else old := by
  induction info using List.reverseRecOn with
  | nil => rfl
  | append_singleton info key ih =>
    rw [List.length_append, List.length_singleton] at h
    have ih := ih (by omega)
    have hplace := place_le node info info.length
    rw [leftIn_append, lastNumber_append]
    cases storedNumber node (junk.at info.length) key with
    | none => rw [Option.map_none, Option.none_or]; exact ih
    | some v =>
      rw [Option.map_some, Option.some_or, Option.elim_some]
      by_cases hlt : i < place node info info.length + 4
      · simp only [if_pos hlt, if_pos (And.intro (by omega : place node info info.length ≤ i) hlt)]
      · simp only [if_neg hlt, if_neg fun hin : _ ∧ _ ↦ hlt hin.2, ih]
        cases hlast : lastNumber node junk info with
        | none => rfl
        | some q =>
          obtain ⟨k, hk, hq⟩ := exists_place_of_mem_lastNumber hlast
          have hle : q.1 ≤ place node info info.length := hq ▸ place_le_place hk.le
          rw [Option.elim_some, if_neg (by omega)]

end LastNumber

/-! ### What `fillInfo` leaves alone -/

section Frame

variable {node : XmlNode} {junk : Junk} {size a : ℕ}

/-- The loop over the tokens stores one byte for each. -/
theorem storeTokens_of_notMem {addr n j : ℕ} (text : List Char) (mem : Mem)
    (h : a < addr + j ∨ addr + j + n ≤ a) : storeTokens junk addr n j text mem a = mem a := by
  induction n generalizing j text mem with
  | zero => rfl
  | succ n ih =>
    have hne : a ≠ addr + j := by omega
    have hrest : a < addr + (j + 1) ∨ addr + (j + 1) + n ≤ a := by omega
    rw [storeTokens]
    rcases strtok text with _ | ⟨str, rest⟩
    · rfl
    · dsimp only
      rcases sscanf str with _ | v
      · exact (ih _ _ hrest).trans (Function.update_of_ne hne ..)
      · exact (ih _ _ hrest).trans (Function.update_of_ne hne ..)

theorem storeIpAddress_of_notMem {addr : ℕ} (mem : Mem) (szKeyCopy : List Char)
    (h : a < addr ∨ addr + 4 ≤ a) : storeIpAddress junk mem addr szKeyCopy a = mem a :=
  storeTokens_of_notMem _ _ h

theorem storeInt_of_notMem {addr : ℕ} (mem : Mem) (v : Word) (h : a < addr ∨ addr + 4 ≤ a) :
    mem.storeInt addr v a = mem a := by
  rw [storeInt_apply, if_neg (by omega)]

/-- One name stores at most four bytes, and moves at most four bytes on. -/
theorem fillKey_frame (hsize : size ≤ 4) {key : String} {s s' : Fill}
    (h : fillKey node size junk key s = .ok s') :
    (s.contentAddr ≤ s'.contentAddr ∧ s'.contentAddr ≤ s.contentAddr + 4) ∧
      ∀ a, a < s.contentAddr ∨ s.contentAddr + 4 ≤ a → s'.mem a = s.mem a := by
  rw [fillKey] at h
  split at h
  · cases h
    exact ⟨⟨Nat.le_add_right .., Nat.add_le_add_left hsize _⟩, fun _ _ ↦ rfl⟩
  · split at h
    · cases h
      exact ⟨⟨le_refl _, Nat.le_add_right ..⟩, fun _ _ ↦ rfl⟩
    · split_ifs at h
      · cases h
        exact ⟨⟨Nat.le_add_right .., le_refl _⟩, fun a ha ↦ storeIpAddress_of_notMem _ _ ha⟩
      · cases h
        exact ⟨⟨Nat.le_add_right .., by simp⟩, fun a ha ↦ storeInt_of_notMem _ _ ha⟩

theorem fillKeys_frame (hsize : size ≤ 4) {i : ℕ} {info : List String} {s s' : Fill}
    (h : fillKeys node size junk i info s = .ok s')
    (ha : a < s.contentAddr ∨ s.contentAddr + 4 * info.length ≤ a) : s'.mem a = s.mem a := by
  induction info generalizing i s with
  | nil =>
    cases h
    rfl
  | cons key info ih =>
    rw [fillKeys] at h
    rw [List.length_cons] at ha
    cases hkey : fillKey node size (junk.at i) key s with
    | error e =>
      rw [hkey] at h
      cases h
    | ok t =>
      rw [hkey] at h
      obtain ⟨haddr, hmem⟩ := fillKey_frame hsize hkey
      rw [ih h (by omega), hmem a (by omega)]

/-- **`fillInfo` stays in the record** that has four bytes for every name. -/
theorem fillInfo_frame (hsize : size ≤ 4) {info : List String} {addr : ℕ} {mem : Mem}
    {r : Mem × ℕ} (h : fillInfo info node addr size junk mem = .ok r)
    (ha : a < addr ∨ addr + 4 * info.length ≤ a) : r.1 a = mem a := by
  rw [fillInfo] at h
  cases hkeys : fillKeys node size junk 0 info ⟨mem, addr, 0⟩ with
  | error e =>
    rw [hkeys] at h
    cases h
  | ok s =>
    rw [hkeys] at h
    cases h
    exact fillKeys_frame hsize hkeys ha

end Frame

/-! ### What an element writes to -/

section Element

variable {node : XmlNode} {junk : Junk} {s s' : Loader} {a : ℕ}

/-- A net item is filled in its entry. -/
theorem loadNetItem_frame {k : ℕ} {mem mem' : Mem} (h : loadNetItem junk node mem k = .ok mem')
    (ha : a < netItemAddr k ∨ netItemAddr k + 16 ≤ a) : mem' a = mem a := by
  rw [loadNetItem] at h
  split_ifs at h
  cases hfill : fillInfo netItemInfo node (netItemAddr k) 4 junk mem with
  | error e =>
    rw [hfill] at h
    cases h
  | ok r =>
    rw [hfill] at h
    cases h
    rw [← fillInfo_frame (le_refl 4) hfill ha, raiseStart]
    split_ifs
    · rw [Function.update_of_ne (by omega)]
    · rfl

theorem loadModeMatch_of_lt (mem : Mem) (ha : a < modeMatchAddr) :
    loadModeMatch junk node mem a = mem a := by
  rw [loadModeMatch]
  cases node.xmlNodeGetContent with
  | none => rfl
  | some szKey =>
    refine List.foldlRecOn (motive := fun mem' : Mem ↦ mem' a = mem a) _ _ rfl
      fun mem' hmem' i _ ↦ ?_
    rw [Function.update_of_ne (by omega), hmem']

theorem loadVersion_of_lt (mem : Mem) (ha : a < versionAddr) :
    loadVersion node mem a = mem a := by
  rw [loadVersion]
  cases node.xmlNodeGetContent with
  | none => rfl
  | some szKey =>
    cases hn : sscanf szKey with
    | none => simp only [hn, Option.elim_none]
    | some n => simp only [hn, Option.elim_some, storeInt_of_notMem _ _ (Or.inl ha)]

/-- **A guard element** leaves in the bytes from its guard on what its numbers leave there, and
what is in front of its guard. -/
theorem mem_loadNode_guard (junk : Junk) (s : Loader) {i : ℕ} (hi : i < 3)
    (hname : areaName[i + 2]? = some node.name) :
    ∃ s', loadNode junk node s = .ok s' ∧ (∀ a < guardAddr i, s'.mem a = s.mem a) ∧
      ∀ k, s'.mem (guardAddr i + k) =
        leftIn node junk guardInfo k (s.mem (guardAddr i + k)) := by
  obtain ⟨r, hr, hmem, hlt⟩ :=
    fillInfo_apply node junk (by decide : ∀ key ∈ guardInfo, isNet key = false) (guardAddr i) s.mem
  refine ⟨{ s with mem := r.1 }, ?_, hlt, hmem⟩
  rw [loadNode_guard hi hname, loadGuard, hr]
  rfl

/-- A net item changes nothing outside its entry. -/
theorem mem_loadNode_netItem (hname : node.name = "NETITEM") (h : loadNode junk node s = .ok s')
    (ha : a < netItemAddr s.netItemIndex ∨ netItemAddr s.netItemIndex + 16 ≤ a) :
    s'.mem a = s.mem a := by
  rw [loadNode_netItem hname] at h
  obtain ⟨mem, hmem, rfl⟩ := map_eq_ok h
  exact loadNetItem_frame hmem ha

/-- **The other elements** leave the guards and the net items alone. -/
theorem mem_loadNode_other (hguard : ∀ i < 3, areaName[i + 2]? ≠ some node.name)
    (hnet : node.name ≠ "NETITEM") (h : loadNode junk node s = .ok s') (ha : a < modeMatchAddr) :
    s'.mem a = s.mem a := by
  by_cases hname : node.name ∈ areaName
  · simp only [areaName, List.mem_cons, List.not_mem_nil, or_false] at hname
    rcases hname with hn | hn | hn | hn | hn | hn | hn | hn | hn | hn
    · rw [loadNode_modol hn] at h
      obtain ⟨model, -, rfl⟩ := map_eq_ok h
      rfl
    · rw [loadNode_buildList hn] at h
      obtain ⟨r, -, rfl⟩ := map_eq_ok h
      rfl
    · exact absurd (by rw [hn]; rfl) (hguard 0 (by decide))
    · exact absurd (by rw [hn]; rfl) (hguard 1 (by decide))
    · exact absurd (by rw [hn]; rfl) (hguard 2 (by decide))
    · exact absurd hn hnet
    · rw [loadNode, hn] at h
      cases h
      rfl
    · rw [loadNode, hn] at h
      cases h
      exact loadModeMatch_of_lt _ ha
    · rw [loadNode, hn] at h
      cases h
      exact loadVersion_of_lt _ (ha.trans (by decide))
    · exact absurd hn hnet
  · rw [loadNode, List.idxOf_eq_length hname] at h
    cases h
    rfl

end Element

/-! ### Runs over the elements -/

/-- One top-level element, with what the uninitialised variables hold there. -/
def loadElement (e : Junk × XmlNode) (s : Loader) : Except LoadFault Loader :=
  loadNode e.1 e.2 s

/-- The loop of `getAreaInfo` is a run over its elements. -/
theorem loadNodes_eq_runSteps (junk : Junk) (i : ℕ) (nodes : List XmlNode) (s : Loader) :
    loadNodes junk i nodes s =
      runSteps loadElement ((nodes.zipIdx i).map fun p ↦ (junk.at p.2, p.1)) s := by
  induction nodes generalizing i s with
  | nil => rfl
  | cons curNode nodes ih =>
    rw [loadNodes, List.zipIdx_cons, List.map_cons, runSteps]
    show (loadNode (junk.at i) curNode s >>= _) = (loadNode (junk.at i) curNode s >>= _)
    cases loadNode (junk.at i) curNode s with
    | error e => rfl
    | ok s' => exact ih (i + 1) s'

/-- The element is the `i`-th of `MANAGE`, `AREAGATE` and `GUARD`. -/
def IsGuard (i : ℕ) (e : Junk × XmlNode) : Prop := areaName[i + 2]? = some e.2.name

instance (i : ℕ) (e : Junk × XmlNode) : Decidable (IsGuard i e) :=
  inferInstanceAs (Decidable (_ = _))

/-- A guard element changes no byte of the other two guards. -/
def KeepsGuards (e : Junk × XmlNode) (s : Loader) : Prop :=
  ∀ i < 3, IsGuard i e → ∃ s', loadElement e s = .ok s' ∧
    ∀ j < 3, j ≠ i → ∀ b < 3, s'.mem (guardAddr j + b) = s.mem (guardAddr j + b)

/-- A net item changes no byte outside one entry of `netItem`. -/
def KeepsToEntry (e : Junk × XmlNode) (s : Loader) : Prop :=
  e.2.name = "NETITEM" → ∃ s', loadElement e s = .ok s' ∧ s'.buildList = s.buildList ∧
    ∃ k < 2, ∀ a, a < netItemAddr k ∨ netItemAddr k + 16 ≤ a → s'.mem a = s.mem a

/-- What the last number of a guard element stores behind its guard is there already. -/
def FitsGuard (e : Junk × XmlNode) (s : Loader) : Prop :=
  ∀ i < 2, IsGuard i e → ∀ q ∈ lastNumber e.2 e.1 guardInfo, ∀ b ≤ q.1,
    s.mem (guardAddr (i + 1) + b) = byteOf q.2 (3 + b - q.1)

/-- There is an entry for a net item, and room for its texts. -/
def FitsEntry (e : Junk × XmlNode) (s : Loader) : Prop :=
  e.2.name = "NETITEM" → s.netItemIndex < 2 ∧ ∀ key ∈ netItemInfo, ¬ Overflows e.2 key

instance (e : Junk × XmlNode) (s : Loader) : Decidable (FitsGuard e s) :=
  inferInstanceAs (Decidable (∀ i < 2, IsGuard i e → ∀ q ∈ lastNumber e.2 e.1 guardInfo, ∀ b ≤ q.1,
    s.mem (guardAddr (i + 1) + b) = byteOf q.2 (3 + b - q.1)))

instance (node : XmlNode) (key : String) : Decidable (Overflows node key) :=
  inferInstanceAs (Decidable (_ ∧ ∃ subNode ∈ node.child? key, ∃ szKey ∈ subNode.firstContent,
    32 ≤ szKey.length))

instance (e : Junk × XmlNode) (s : Loader) : Decidable (FitsEntry e s) :=
  inferInstanceAs (Decidable (_ → _ ∧ ∀ key ∈ netItemInfo, ¬ Overflows e.2 key))

section Steps

variable {e : Junk × XmlNode} {es es' : List (Junk × XmlNode)} {s s' : Loader}

theorem guardAddr_add {i b : ℕ} : guardAddr i + (3 + b) = guardAddr (i + 1) + b := by
  simp only [guardAddr]
  omega

/-- The bytes behind a guard after its element. -/
theorem leftIn_guardInfo (b : ℕ) (old : UChar) :
    leftIn e.2 e.1 guardInfo (3 + b) old = (lastNumber e.2 e.1 guardInfo).elim old fun q ↦
      if b ≤ q.1 then byteOf q.2 (3 + b - q.1) else old := by
  rw [leftIn_of_length_le (by simp only [guardInfo, List.length_cons, List.length_nil]; omega)]
  cases lastNumber e.2 e.1 guardInfo with
  | none => rfl
  | some q =>
    rw [Option.elim_some, Option.elim_some]
    congr 1
    simp only [eq_iff_iff]
    omega

theorem fst_le_two {q : ℕ × Word} (h : q ∈ lastNumber e.2 e.1 guardInfo) : q.1 ≤ 2 := by
  obtain ⟨k, hk, hq⟩ := exists_place_of_mem_lastNumber h
  have hlt : k < 3 := hk
  exact hq ▸ (place_le _ _ k).trans (Nat.le_of_lt_succ hlt)

/-- A guard element leaves the net items alone. -/
theorem mem_loadElement_of_isGuard {i a : ℕ} (hi : i < 3) (hguard : IsGuard i e)
    (hs' : loadElement e s = .ok s') (ha : netItemAddr 0 ≤ a) : s'.mem a = s.mem a := by
  obtain ⟨t, ht, -, hmem⟩ := mem_loadNode_guard e.1 s hi hguard
  obtain rfl : s' = t := Except.ok.inj (hs'.symm.trans ht)
  have haddr : guardAddr i + 6 ≤ 16 := by
    simp only [guardAddr]
    omega
  have hend : 16 ≤ a := ha
  obtain ⟨b, rfl⟩ : ∃ b, a = guardAddr i + 3 + b := Nat.exists_eq_add_of_le (by omega)
  rw [Nat.add_assoc, hmem, leftIn_guardInfo]
  cases hq : lastNumber e.2 e.1 guardInfo with
  | none => rfl
  | some q =>
    have hle := fst_le_two hq
    rw [Option.elim_some, if_neg (by omega)]

/-- **A guard element keeps the other guards** exactly if what it stores behind its own is there
already. -/
theorem keepsGuards_iff : KeepsGuards e s ↔ FitsGuard e s := by
  constructor
  · intro hkeeps i hi hguard q hq b hb
    have hle := fst_le_two hq
    obtain ⟨s', hs', hsame⟩ := hkeeps i (by omega) hguard
    obtain ⟨t, ht, -, hmem⟩ := mem_loadNode_guard e.1 s (by omega : i < 3) hguard
    obtain rfl : s' = t := Except.ok.inj (hs'.symm.trans ht)
    have hbyte := hsame (i + 1) (by omega) (by omega) b (by omega)
    rw [← guardAddr_add, hmem, leftIn_guardInfo, Option.mem_def.1 hq, Option.elim_some, if_pos hb]
      at hbyte
    rw [← guardAddr_add, ← hbyte]
  · intro hfits i hi hguard
    obtain ⟨t, ht, hlt, hmem⟩ := mem_loadNode_guard e.1 s hi hguard
    refine ⟨t, ht, fun j hj hne b hb ↦ ?_⟩
    rcases Nat.lt_or_gt_of_ne hne with hji | hij
    · refine hlt _ ?_
      simp only [guardAddr]
      omega
    · obtain ⟨d, rfl⟩ : ∃ d, j = i + 1 + d := Nat.exists_eq_add_of_le hij
      have haddr : guardAddr (i + 1 + d) + b = guardAddr i + (3 + (3 * d + b)) := by
        simp only [guardAddr]
        omega
      rw [haddr, hmem, leftIn_guardInfo]
      cases hq : lastNumber e.2 e.1 guardInfo with
      | none => rfl
      | some q =>
        have hle := fst_le_two hq
        rw [Option.elim_some]
        split_ifs with hb'
        · rw [guardAddr_add, ← hfits i (by omega) hguard q hq (3 * d + b) hb']
        · rfl

/-- **The first two net items stay in their entries.** -/
theorem keepsToEntry (h : FitsEntry e s) : KeepsToEntry e s := by
  intro hname
  obtain ⟨hindex, hroom⟩ := h hname
  obtain ⟨mem, hmem⟩ := loadNetItem_isOk_iff.2 ⟨(by omega : s.netItemIndex < 3), hroom⟩
  refine ⟨{ s with mem, netItemIndex := s.netItemIndex + 1 }, ?_, rfl, s.netItemIndex, hindex,
    fun a ha ↦ loadNetItem_frame hmem ha⟩
  rw [loadElement, loadNode_netItem hname, hmem]
  rfl

/-- An element that changes no part but its own. -/
def KeepsParts (e : Junk × XmlNode) (s : Loader) : Prop := KeepsGuards e s ∧ KeepsToEntry e s

/-- An element that fits in its own part. -/
def Fits (e : Junk × XmlNode) (s : Loader) : Prop := FitsGuard e s ∧ FitsEntry e s

instance (e : Junk × XmlNode) (s : Loader) : Decidable (Fits e s) :=
  inferInstanceAs (Decidable (_ ∧ _))

theorem loadElement_isOk_iff (h : Fits e s) :
    (∃ s', loadElement e s = .ok s') ↔ Loadable e.2 := by
  rw [loadElement, loadNode_isOk_iff]
  exact and_iff_left fun hname ↦ Nat.lt_succ_of_lt (h.2 hname).1

/-- **A byte of a guard** is changed by the elements of that guard only. -/
theorem mem_guardAddr_loadElement {i b : ℕ} (hi : i < 3) (hb : b < 3) (h : Fits e s)
    (hs' : loadElement e s = .ok s') :
    s'.mem (guardAddr i + b) =
      if IsGuard i e then leftIn e.2 e.1 guardInfo b (s.mem (guardAddr i + b))
      else s.mem (guardAddr i + b) := by
  split_ifs with hguard
  · obtain ⟨t, ht, -, hmem⟩ := mem_loadNode_guard e.1 s hi hguard
    obtain rfl : s' = t := Except.ok.inj (hs'.symm.trans ht)
    exact hmem b
  · by_cases hother : ∃ j < 3, IsGuard j e
    · obtain ⟨j, hj, hguard'⟩ := hother
      obtain ⟨t, ht, hsame⟩ := keepsGuards_iff.2 h.1 j hj hguard'
      obtain rfl : s' = t := Except.ok.inj (hs'.symm.trans ht)
      exact hsame i hi (fun hij ↦ hguard (hij ▸ hguard')) b hb
    · by_cases hname : e.2.name = "NETITEM"
      · refine mem_loadNode_netItem hname hs' (Or.inl ?_)
        simp only [guardAddr, netItemAddr]
        omega
      · refine mem_loadNode_other (fun j hj hj' ↦ hother ⟨j, hj, hj'⟩) hname hs' ?_
        simp only [guardAddr, modeMatchAddr]
        omega

/-- **A byte of a guard after a run** is what the elements of that guard make of it. -/
theorem mem_guardAddr_runSteps {i b : ℕ} (hi : i < 3) (hb : b < 3)
    (h : AlongSteps loadElement Fits es s) (hrun : runSteps loadElement es s = .ok s') :
    s'.mem (guardAddr i + b) = (es.filter fun e ↦ IsGuard i e).foldl
      (fun old e ↦ leftIn e.2 e.1 guardInfo b old) (s.mem (guardAddr i + b)) := by
  rw [List.foldl_filter]
  simp only [decide_eq_true_eq]
  exact h.observe (fun s : Loader ↦ s.mem (guardAddr i + b))
    (fun e s s' hfits hs' ↦ mem_guardAddr_loadElement hi hb hfits hs') hrun

/-- The same elements, and those of each guard in the same order. -/
def Reordered (es es' : List (Junk × XmlNode)) : Prop :=
  es.Perm es' ∧ ∀ i < 3, (es.filter fun e ↦ IsGuard i e) = es'.filter fun e ↦ IsGuard i e

/-- **Every element changes only its own part**, in every run whose elements fit: a guard element
no byte of the other two guards, a net item no byte outside one entry. And another run with the
same elements, which fit too, leaves the same guards, whatever the order of the elements of
different guards is. -/
theorem keepsParts_of_fits (es : List (Junk × XmlNode))
    (h : AlongSteps loadElement Fits es .start) :
    AlongSteps loadElement KeepsParts es .start ∧
      ∀ es', Reordered es es' → AlongSteps loadElement Fits es' .start →
        ∀ s, runSteps loadElement es .start = .ok s →
          ∃ s', runSteps loadElement es' .start = .ok s' ∧
            (AreaBlock.mk s'.mem s'.buildList).area.guard =
              (AreaBlock.mk s.mem s.buildList).area.guard := by
  refine ⟨h.imp fun e s hfits ↦ ⟨keepsGuards_iff.2 hfits.1, keepsToEntry hfits.2⟩, ?_⟩
  rintro es' ⟨hperm, hfilter⟩ h' s hs
  have hloadable := (h.runSteps_isOk_iff fun _ _ hfits ↦ loadElement_isOk_iff hfits).1 ⟨s, hs⟩
  obtain ⟨s', hs'⟩ := (h'.runSteps_isOk_iff fun _ _ hfits ↦ loadElement_isOk_iff hfits).2
    fun e he ↦ hloadable e (hperm.mem_iff.2 he)
  refine ⟨s', hs', funext fun i ↦ ?_⟩
  have hbyte (b : ℕ) (hb : b < 3) : s'.mem (guardAddr i + b) = s.mem (guardAddr i + b) := by
    rw [mem_guardAddr_runSteps i.isLt hb h' hs', mem_guardAddr_runSteps i.isLt hb h hs,
      hfilter i i.isLt]
  simp only [AreaBlock.area, Guard.mk.injEq]
  exact ⟨hbyte 0 (by decide), hbyte 1 (by decide), hbyte 2 (by decide)⟩

end Steps

/-- A guard element. -/
def sampleGuard (name indexEnd : String) : Junk × XmlNode :=
  (.zero, .element name [.leaf "IPID" "1", .leaf "IndexBegin" "1", .leaf "IndexEnd" indexEnd])

/-- A net item. -/
def sampleNetItem : Junk × XmlNode :=
  (.zero, .element "NETITEM" [.leaf "NETSTART" "192.168.1.0", .leaf "IPID" "1"])

/-- `MANAGE`, a net item and `GUARD`, in two orders. -/
theorem keepsParts_manage_netItem_guard :
    AlongSteps loadElement KeepsParts
        [sampleGuard "MANAGE" "2", sampleNetItem, sampleGuard "GUARD" "3"] .start ∧
      ∀ s, runSteps loadElement
          [sampleGuard "MANAGE" "2", sampleNetItem, sampleGuard "GUARD" "3"] .start = .ok s →
        ∃ s', runSteps loadElement
            [sampleGuard "GUARD" "3", sampleGuard "MANAGE" "2", sampleNetItem] .start = .ok s' ∧
          (AreaBlock.mk s'.mem s'.buildList).area.guard =
            (AreaBlock.mk s.mem s.buildList).area.guard := by
  have hrun := keepsParts_of_fits
    [sampleGuard "MANAGE" "2", sampleNetItem, sampleGuard "GUARD" "3"] (by decide)
  refine ⟨hrun.1, hrun.2 _ ⟨?_, fun i hi ↦ ?_⟩ (by decide)⟩
  · exact List.perm_append_singleton (sampleGuard "GUARD" "3")
      [sampleGuard "MANAGE" "2", sampleNetItem]
  · match i with
    | 0 | 1 | 2 => rfl

/-- `AREAGATE` before `MANAGE`: the `IPID` of `AREAGATE` is lost. -/
theorem not_keepsParts_areaGate_manage :
    ¬ AlongSteps loadElement KeepsParts
      [sampleGuard "AREAGATE" "1", sampleGuard "MANAGE" "2"] .start := by
  rintro ⟨-, hrest⟩
  obtain ⟨⟨hkeeps, -⟩, -⟩ := hrest _ rfl
  exact absurd (keepsGuards_iff.1 hkeeps) (by decide)

end DoorIntercom
