import DoorIntercom.Area.GetAreaInfo
import Mathlib.Algebra.Order.Group.Nat
import Mathlib.Algebra.Order.Ring.Int
import Mathlib.Data.List.Find
import Mathlib.Data.List.Induction

/-!
# The fields of a filled record

`fillInfo` over a record of bytes, for a table of numbers. A name that is there with a content is
*placed*: its number goes to the record's bytes from the number of the names before it that are not
empty, since an empty child does not move the write pointer. And it goes to **four** bytes. So what
a field holds in the end is a byte of the last number that reaches it (`reaching`), or its value
before if none does (`fillInfo_apply`).

Every field gets what its name says (`FillsFields`) exactly if that byte is the right one for every
field (`fillsFields_iff`). For numbers of one byte in a record of zeros it is enough that no child
is empty (`leavesFields_of_zero`), and that is how the loader's own records happen to be right.
-/

namespace DoorIntercom

/-! ### Names and their places -/

section Places

variable (node : XmlNode) (junk : Junk) (info : List String)

/-- The child is there without a content. -/
def XmlNode.isEmpty (key : String) : Bool :=
  (node.child? key).any fun subNode ↦ subNode.firstContent.isNone

/-- The `int` that is stored for a name, if its child has a content. -/
def storedNumber (key : String) : Option Word :=
  ((node.child? key).bind XmlNode.firstContent).map fun szKey ↦
    (sscanf szKey).elim (junk.index []) toInt

/-- The `int` that is stored for the `k`-th name of a table. -/
def fieldNumber (k : ℕ) : Option Word :=
  info[k]?.bind (storedNumber node (junk.at k))

/-- The place of the number of the `k`-th name: the names before it that are not empty. -/
def place (k : ℕ) : ℕ := (info.take k).countP fun key ↦ !node.isEmpty key

/-- The number of the `k`-th name reaches the `i`-th byte of the record. -/
def Reaches (i k : ℕ) : Prop :=
  (fieldNumber node junk info k).isSome ∧ place node info k ≤ i ∧ i < place node info k + 4

instance (i k : ℕ) : Decidable (Reaches node junk info i k) :=
  inferInstanceAs (Decidable (_ ∧ _))

/-- The last name whose number reaches the `i`-th byte. -/
def reaching (i : ℕ) : Option ℕ :=
  (List.range info.length).reverse.find? fun k ↦ Reaches node junk info i k

/-- The `j`-th byte of an `int`, the least significant first. -/
def byteOf (v : Word) (j : ℕ) : UChar := (v >>> (8 * j)).setWidth 8

/-- The byte that the last number to reach it leaves in the `i`-th byte, which held `old`. -/
def leftIn (i : ℕ) (old : UChar) : UChar :=
  match reaching node junk info i with
  | some k => byteOf ((fieldNumber node junk info k).getD 0) (i - place node info k)
  | none => old

/-- What a field should hold: the number of its child modulo 256, or what it held before if the
child is missing or empty. -/
def Wanted (key : String) (old new : UChar) : Prop :=
  match (node.child? key).bind XmlNode.firstContent with
  | some szKey => ∀ n, sscanf szKey = some n → (new.toNat : ℤ) = n % 256
  | none => new = old

/-- Every field gets what its name says. -/
def FillsFields (addr : ℕ) (mem : Mem) : Prop :=
  ∃ r, fillInfo info node addr 1 junk mem = .ok r ∧
    ∀ i key, info[i]? = some key → Wanted node key (mem (addr + i)) (r.1 (addr + i))

/-- For every field, the last number that reaches it has there the byte that the field should
hold. -/
def LeavesFields (addr : ℕ) (mem : Mem) : Prop :=
  ∀ i key, info[i]? = some key →
    Wanted node key (mem (addr + i)) (leftIn node junk info i (mem (addr + i)))

end Places

/-- What `List.find?` finds from the end of a range is the last one. -/
theorem find?_reverse_range_eq_some {p : ℕ → Bool} {n k : ℕ}
    (h : (List.range n).reverse.find? p = some k) :
    k < n ∧ p k = true ∧ ∀ k', k < k' → k' < n → p k' = false := by
  induction n with
  | zero => simp at h
  | succ n ih =>
    rw [List.range_succ, List.reverse_append, List.reverse_singleton, List.singleton_append] at h
    cases hp : p n with
    | true =>
      rw [List.find?_cons_of_pos hp] at h
      cases h
      exact ⟨Nat.lt_succ_self k, hp, fun k' hlt hle ↦ by omega⟩
    | false =>
      rw [List.find?_cons_of_neg (by simp [hp])] at h
      obtain ⟨hlt, hk, hmax⟩ := ih h
      refine ⟨by omega, hk, fun k' hlt' hle ↦ ?_⟩
      rcases Nat.lt_succ_iff_lt_or_eq.1 hle with hle | heq
      · exact hmax k' hlt' hle
      · rw [heq, hp]

/-! ### Adding a name to a table -/

section Append

variable {node : XmlNode} {junk : Junk} {info : List String} {key : String} {i k : ℕ}

theorem place_append_of_le (h : k ≤ info.length) :
    place node (info ++ [key]) k = place node info k := by
  rw [place, List.take_append_of_le_length h, place]

theorem fieldNumber_append_of_lt (h : k < info.length) :
    fieldNumber node junk (info ++ [key]) k = fieldNumber node junk info k := by
  rw [fieldNumber, List.getElem?_append_left h, fieldNumber]

theorem fieldNumber_append_self :
    fieldNumber node junk (info ++ [key]) info.length =
      storedNumber node (junk.at info.length) key := by
  simp [fieldNumber]

theorem place_append_succ :
    place node (info ++ [key]) (info.length + 1) =
      place node info info.length + if node.isEmpty key then 0 else 1 := by
  rw [place, place, List.take_of_length_le (by simp), List.take_of_length_le (le_refl _),
    List.countP_append, List.countP_singleton]
  cases node.isEmpty key <;> simp

theorem reaches_append_of_lt (h : k < info.length) :
    Reaches node junk (info ++ [key]) i k ↔ Reaches node junk info i k := by
  rw [Reaches, Reaches, fieldNumber_append_of_lt h, place_append_of_le h.le]

/-- The new name is asked first, the others as before. -/
theorem leftIn_append (old : UChar) :
    leftIn node junk (info ++ [key]) i old =
      match storedNumber node (junk.at info.length) key with
      | some v =>
        if place node info info.length ≤ i ∧ i < place node info info.length + 4 then
          byteOf v (i - place node info info.length)
        else leftIn node junk info i old
      | none => leftIn node junk info i old := by
  have hlast : Reaches node junk (info ++ [key]) i info.length ↔
      (storedNumber node (junk.at info.length) key).isSome ∧
        place node info info.length ≤ i ∧ i < place node info info.length + 4 := by
    rw [Reaches, fieldNumber_append_self, place_append_of_le (le_refl _)]
  have hrest : ¬ Reaches node junk (info ++ [key]) i info.length →
      leftIn node junk (info ++ [key]) i old = leftIn node junk info i old := by
    intro hnot
    have hreaching : reaching node junk (info ++ [key]) i = reaching node junk info i := by
      rw [reaching, List.length_append, List.length_singleton, List.range_succ,
        List.reverse_append, List.reverse_singleton, List.singleton_append,
        List.find?_cons_of_neg (by simpa using hnot), reaching]
      refine List.find?_congr fun k hk ↦ ?_
      rw [List.mem_reverse, List.mem_range] at hk
      exact decide_eq_decide.2 (reaches_append_of_lt hk)
    rw [leftIn, leftIn, hreaching]
    cases hk : reaching node junk info i with
    | none => rfl
    | some k =>
      have hlt : k < info.length := by
        simpa using List.mem_of_find?_eq_some hk
      simp only [fieldNumber_append_of_lt hlt, place_append_of_le hlt.le]
  cases hv : storedNumber node (junk.at info.length) key with
  | none => exact hrest fun h ↦ by simp [hv] at hlast; exact hlast h
  | some v =>
    by_cases hin : place node info info.length ≤ i ∧ i < place node info info.length + 4
    · have hreach := hlast.2 ⟨by rw [hv]; rfl, hin⟩
      have hreaching : reaching node junk (info ++ [key]) i = some info.length := by
        rw [reaching, List.length_append, List.length_singleton, List.range_succ,
          List.reverse_append, List.reverse_singleton, List.singleton_append,
          List.find?_cons_of_pos (by simpa using hreach)]
      simp only [leftIn, hreaching, fieldNumber_append_self, hv, Option.getD_some,
        place_append_of_le (le_refl _), if_pos hin]
    · simp only [if_neg hin]
      exact hrest fun h ↦ hin (hlast.1 h).2

end Append

/-! ### What a field holds -/

section Fill

variable {node : XmlNode} {junk : Junk} {info : List String}

theorem fillKeys_append {size i : ℕ} {key : String} {s : Fill} :
    fillKeys node size junk i (info ++ [key]) s =
      fillKeys node size junk i info s >>= fillKey node size (junk.at (i + info.length)) key := by
  induction info generalizing i s with
  | nil =>
    show (fillKey node size (junk.at i) key s >>= .ok) = fillKey node size (junk.at i) key s
    cases fillKey node size (junk.at i) key s <;> rfl
  | cons key' info ih =>
    simp only [List.cons_append, fillKeys, List.length_cons]
    cases fillKey node size (junk.at i) key' s with
    | error e => rfl
    | ok s' =>
      show fillKeys node size junk (i + 1) (info ++ [key]) s' = _
      rw [ih, Nat.add_right_comm, Nat.add_assoc]
      rfl

/-- One name of a table of numbers. -/
theorem fillKey_number {key : String} (hnet : isNet key = false) (s : Fill) :
    fillKey node 1 junk key s =
      .ok ⟨(storedNumber node junk key).elim s.mem (s.mem.storeInt s.contentAddr),
        s.contentAddr + (if node.isEmpty key then 0 else 1),
        s.keyIndex + (if (storedNumber node junk key).isSome then 1 else 0)⟩ := by
  cases hc : node.child? key with
  | none =>
    rw [fillKey_of_missing hc]
    simp [storedNumber, XmlNode.isEmpty, hc]
  | some subNode =>
    cases hf : subNode.firstContent with
    | none =>
      rw [fillKey_of_empty hc hf]
      simp [storedNumber, XmlNode.isEmpty, hc, hf]
    | some szKey =>
      rw [fillKey_of_content hnet hc hf]
      simp [storedNumber, XmlNode.isEmpty, hc, hf]

/-- The store of an `int`, byte by byte. -/
theorem storeInt_apply (mem : Mem) (addr a : ℕ) (v : Word) :
    mem.storeInt addr v a = if addr ≤ a ∧ a < addr + 4 then byteOf v (a - addr) else mem a := rfl

variable (node junk) in
/-- The loop over the names of a table of numbers. -/
theorem fillKeys_apply (hnet : ∀ key ∈ info, isNet key = false) (addr : ℕ) (mem : Mem) :
    ∃ s, fillKeys node 1 junk 0 info ⟨mem, addr, 0⟩ = .ok s ∧
      s.contentAddr = addr + place node info info.length ∧
      (∀ i, s.mem (addr + i) = leftIn node junk info i (mem (addr + i))) ∧
      ∀ a < addr, s.mem a = mem a := by
  induction info using List.reverseRecOn with
  | nil => exact ⟨_, rfl, rfl, fun _ ↦ rfl, fun _ _ ↦ rfl⟩
  | append_singleton info key ih =>
    obtain ⟨s, hs, haddr, hmem, hlt⟩ := ih fun key' hkey' ↦ hnet key' (List.mem_append_left _ hkey')
    have hrun : fillKeys node 1 junk 0 (info ++ [key]) ⟨mem, addr, 0⟩ =
        fillKey node 1 (junk.at info.length) key s := by
      rw [fillKeys_append, hs, Nat.zero_add]
      rfl
    refine ⟨_, hrun.trans (fillKey_number (hnet key (by simp)) s), ?_, fun i ↦ ?_, fun a ha ↦ ?_⟩
    · rw [List.length_append, List.length_singleton, place_append_succ, haddr, Nat.add_assoc]
    · rw [leftIn_append, ← hmem]
      cases hv : storedNumber node (junk.at info.length) key with
      | none => rfl
      | some v =>
        simp only [Option.elim_some, storeInt_apply, haddr]
        congr 1
        · simp only [eq_iff_iff]
          omega
        · congr 1
          omega
    · cases hv : storedNumber node (junk.at info.length) key with
      | none => exact hlt a ha
      | some v =>
        simp only [Option.elim_some]
        rw [Mem.storeInt_of_lt _ _ _ (by omega)]
        exact hlt a ha

variable (node junk) in
/-- **What `fillInfo` leaves in a record**: in every byte, the byte of the last number that reaches
it; in front of the record, what was there. -/
theorem fillInfo_apply (hnet : ∀ key ∈ info, isNet key = false) (addr : ℕ) (mem : Mem) :
    ∃ r, fillInfo info node addr 1 junk mem = .ok r ∧
      (∀ i, r.1 (addr + i) = leftIn node junk info i (mem (addr + i))) ∧
      ∀ a < addr, r.1 a = mem a := by
  obtain ⟨s, hs, -, hmem, hlt⟩ := fillKeys_apply node junk hnet addr mem
  exact ⟨_, by rw [fillInfo, hs]; rfl, hmem, hlt⟩

end Fill

/-! ### Records of zeros -/

section Zero

variable {node : XmlNode} {junk : Junk} {info : List String} {i k : ℕ}

theorem place_of_no_empty (h : ∀ key ∈ info, node.isEmpty key = false) (hk : k ≤ info.length) :
    place node info k = k := by
  rw [place, List.countP_eq_length.2 fun key hkey ↦ by
    simp [h key (List.mem_of_mem_take hkey)], List.length_take_of_le hk]

/-- The upper bytes of a number of one byte are zero. -/
theorem byteOf_toInt {n : ℤ} (h : 0 ≤ n) (h' : n ≤ 255) (j : ℕ) :
    ((byteOf (toInt n) j).toNat : ℤ) = if j = 0 then n else 0 := by
  obtain ⟨m, rfl⟩ := Int.eq_ofNat_of_zero_le h
  have hword : toInt (m : ℤ) = BitVec.ofNat 32 m := by
    rw [toInt, min_eq_left (by omega), max_eq_right (by omega), BitVec.ofInt_natCast]
  rw [byteOf, hword, BitVec.toNat_setWidth, BitVec.toNat_ushiftRight, BitVec.toNat_ofNat,
    Nat.mod_eq_of_lt (by omega : m < 2 ^ 32), Nat.shiftRight_eq_div_pow]
  split_ifs with hj
  · subst hj
    simp
    omega
  · have hle : 2 ^ 8 ≤ 2 ^ (8 * j) := Nat.pow_le_pow_right (by decide) (by omega)
    rw [Nat.div_eq_of_lt (by omega)]
    rfl

/-- Without empty children, a number that reaches a field is the one of a name up to it; if the
contents are numbers of one byte, so is that one. -/
theorem exists_content_of_reaches (hempty : ∀ key ∈ info, node.isEmpty key = false)
    (hbytes : ∀ key ∈ info, ∀ szKey ∈ (node.child? key).bind XmlNode.firstContent,
      ∃ n, sscanf szKey = some n ∧ 0 ≤ n ∧ n ≤ 255)
    {i k : ℕ} (hk : k < info.length) (hreach : Reaches node junk info i k) :
    k ≤ i ∧ ∃ szKey n, (info[k]?.bind node.child?).bind XmlNode.firstContent = some szKey ∧
      0 ≤ n ∧ n ≤ 255 ∧ fieldNumber node junk info k = some (toInt n) := by
  obtain ⟨hsome, hle, -⟩ := hreach
  rw [place_of_no_empty hempty hk.le] at hle
  refine ⟨hle, ?_⟩
  obtain ⟨v, hv⟩ := Option.isSome_iff_exists.1 hsome
  rw [fieldNumber, List.getElem?_eq_getElem hk, Option.bind_some, storedNumber] at hv
  obtain ⟨szKey, hcontent, rfl⟩ := Option.map_eq_some_iff.1 hv
  obtain ⟨n, hn, h0, h255⟩ := hbytes _ (List.getElem_mem hk) szKey hcontent
  refine ⟨szKey, n, ?_, h0, h255, ?_⟩
  · rw [List.getElem?_eq_getElem hk, Option.bind_some, hcontent]
  · rw [fieldNumber, List.getElem?_eq_getElem hk, Option.bind_some, storedNumber, hcontent,
      Option.map_some, hn, Option.elim_some]

/-- Without empty children, the last number that reaches the field of a name with a content is its
own: the numbers behind it lie behind the field. -/
theorem reaching_eq_self (hempty : ∀ key ∈ info, node.isEmpty key = false) (hi : i < info.length)
    (hsome : (fieldNumber node junk info i).isSome) : reaching node junk info i = some i := by
  have hself : Reaches node junk info i i := by
    refine ⟨hsome, (place_of_no_empty hempty hi.le).le, ?_⟩
    rw [place_of_no_empty hempty hi.le]
    omega
  cases hk : reaching node junk info i with
  | none =>
    have hnone := List.find?_eq_none.1 hk i (by simpa using hi)
    exact absurd (decide_eq_true hself) hnone
  | some k =>
    obtain ⟨hlt, hreach, hmax⟩ := find?_reverse_range_eq_some hk
    obtain ⟨-, hle, -⟩ : Reaches node junk info i k := of_decide_eq_true hreach
    rw [place_of_no_empty hempty hlt.le] at hle
    by_contra hne
    have hki : k < i := lt_of_le_of_ne hle fun heq ↦ hne (by rw [heq])
    exact absurd hself (of_decide_eq_false (hmax i hki hi))

/-- The field of a name without a content stays zero: only upper bytes of other numbers reach it. -/
theorem leftIn_of_missing (hempty : ∀ key ∈ info, node.isEmpty key = false)
    (hbytes : ∀ key ∈ info, ∀ szKey ∈ (node.child? key).bind XmlNode.firstContent,
      ∃ n, sscanf szKey = some n ∧ 0 ≤ n ∧ n ≤ 255)
    {key : String} (hkey : info[i]? = some key)
    (hcontent : (node.child? key).bind XmlNode.firstContent = none) :
    leftIn node junk info i 0 = 0 := by
  rw [leftIn]
  cases hk : reaching node junk info i with
  | none => rfl
  | some k =>
    obtain ⟨hlt, hreach, -⟩ := find?_reverse_range_eq_some hk
    obtain ⟨hle, szKey, n, hszKey, h0, h255, hfield⟩ :=
      exists_content_of_reaches hempty hbytes hlt (of_decide_eq_true hreach)
    have hne : i - k ≠ 0 := by
      intro hik
      obtain rfl : i = k := by omega
      rw [hkey, Option.bind_some, hcontent] at hszKey
      cases hszKey
    have hbyte := byteOf_toInt h0 h255 (i - k)
    rw [if_neg hne] at hbyte
    simp only [hfield, Option.getD_some, place_of_no_empty hempty hlt.le]
    exact BitVec.eq_of_toNat_eq (by simpa using hbyte)

/-- The field of a name with a number of one byte gets that byte. -/
theorem leftIn_of_content (hempty : ∀ key ∈ info, node.isEmpty key = false)
    {key : String} {szKey : List Char} {n : ℤ} (hkey : info[i]? = some key)
    (hcontent : (node.child? key).bind XmlNode.firstContent = some szKey)
    (hn : sscanf szKey = some n) (h0 : 0 ≤ n) (h255 : n ≤ 255) (old : UChar) :
    ((leftIn node junk info i old).toNat : ℤ) = n := by
  obtain ⟨hi, -⟩ := List.getElem?_eq_some_iff.1 hkey
  have hfield : fieldNumber node junk info i = some (toInt n) := by
    rw [fieldNumber, hkey, Option.bind_some, storedNumber, hcontent, Option.map_some, hn,
      Option.elim_some]
  rw [leftIn, reaching_eq_self hempty hi (by rw [hfield]; rfl)]
  simp only [hfield, Option.getD_some, place_of_no_empty hempty hi.le, Nat.sub_self]
  rw [byteOf_toInt h0 h255, if_pos rfl]

/-- **Numbers of one byte in a record of zeros**: without empty children, every field holds what it
should, since the upper bytes of the numbers are zero. -/
theorem leavesFields_of_zero (hempty : ∀ key ∈ info, node.isEmpty key = false)
    (hbytes : ∀ key ∈ info, ∀ szKey ∈ (node.child? key).bind XmlNode.firstContent,
      ∃ n, sscanf szKey = some n ∧ 0 ≤ n ∧ n ≤ 255)
    {addr : ℕ} {mem : Mem} (hzero : ∀ i < info.length, mem (addr + i) = 0) :
    LeavesFields node junk info addr mem := by
  intro i key hkey
  obtain ⟨hi, -⟩ := List.getElem?_eq_some_iff.1 hkey
  rw [Wanted, hzero i hi]
  cases hcontent : (node.child? key).bind XmlNode.firstContent with
  | none => exact leftIn_of_missing hempty hbytes hkey hcontent
  | some szKey =>
    intro n hn
    obtain ⟨n', hn', h0, h255⟩ := hbytes key (List.mem_of_getElem? hkey) szKey hcontent
    rw [hn] at hn'
    cases hn'
    rw [leftIn_of_content hempty hkey hcontent hn h0 h255, Int.emod_eq_of_lt h0 (by omega)]

end Zero

/-! ### Every value in its own field -/

/-- **Every value goes to its own field**, for every list of children, table of numbers and record
before, if and only if for every field the last number that reaches it has there the byte that the
field should hold. -/
theorem fillsFields_iff (node : XmlNode) (junk : Junk) {info : List String}
    (hnet : ∀ key ∈ info, isNet key = false) (addr : ℕ) (mem : Mem) :
    FillsFields node junk info addr mem ↔ LeavesFields node junk info addr mem := by
  obtain ⟨r, hr, hmem, -⟩ := fillInfo_apply node junk hnet addr mem
  constructor
  · rintro ⟨r', hr', hfields⟩ i key hkey
    rw [hr] at hr'
    cases hr'
    rw [← hmem]
    exact hfields i key hkey
  · intro hleaves
    refine ⟨r, hr, fun i key hkey ↦ ?_⟩
    rw [hmem]
    exact hleaves i key hkey

/-- A `BuildList` element with all its numbers, in a record of zeros. -/
theorem fillsFields_buildList :
    FillsFields (.element "BuildList" [.leaf "IPID" "1", .leaf "BUILDBEGIN" "3",
      .leaf "BUILDEND" "4", .leaf "MODID" "2"]) .zero buildInfo 0 .zero :=
  (fillsFields_iff _ _ (by decide) _ _).2 <| leavesFields_of_zero (by decide)
    (by
      intro key hkey szKey hszKey
      simp only [buildInfo, List.mem_cons, List.not_mem_nil, or_false] at hkey
      rcases hkey with rfl | rfl | rfl | rfl
      · exact ⟨1, by cases hszKey; rfl, by decide, by decide⟩
      · exact ⟨3, by cases hszKey; rfl, by decide, by decide⟩
      · exact ⟨4, by cases hszKey; rfl, by decide, by decide⟩
      · exact ⟨2, by cases hszKey; rfl, by decide, by decide⟩)
    fun _ _ ↦ rfl

/-- An empty `IPID`: the first building goes to the field of the `IPID`. -/
theorem not_fillsFields_empty_ipid :
    ¬ FillsFields (.element "BuildList" [.element "IPID" [], .leaf "BUILDBEGIN" "3",
      .leaf "BUILDEND" "4", .leaf "MODID" "2"]) .zero buildInfo 0 .zero := by
  rintro ⟨r, hr, hfields⟩
  have hipid : r.1 0 = 0 := hfields 0 "IPID" rfl
  cases hr
  change 3#8 = 0 at hipid
  exact absurd hipid (by decide)

end DoorIntercom
