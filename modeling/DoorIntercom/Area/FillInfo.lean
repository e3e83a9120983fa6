import DoorIntercom.Area.MachineCode
import Mathlib.Logic.Function.Basic

/-!
# Filling a record from an element

`fillInfo` reads the children of an element into a record, one for each name of a table, in the
table's order. The record is the memory it lies in: a value is stored as a little-endian 4-byte
`int` at the record's next address, also where the fields are single bytes, so a store runs over the
three fields behind its own and is repaired by the stores that follow. The next address is one byte
on after an `int`, four after an address (`NET…`), `size` where the child is missing, and **the
same** where the child is there but empty.

`index` is not initialised, and keeps its value where `sscanf` finds no number. What it holds then
is a parameter (`Junk`) of everything that reads it, one value for each use. Accesses outside an
object are faults, with one exception: the `index` of a `NET…` child is a byte, and `sscanf` writes
an `int` there. The three bytes behind it are of other variables or of none, as the compiler has
placed them; if they are of `szKeyCopy`, the address is cut off or changed while it is read. What
they do to the text that is still to be read is the other part of the parameter, and
`Junk.KeepsText` says that they do nothing. The other variables of the loop are not hit.
-/

namespace DoorIntercom

/-! ### Nodes of a document -/

/-- A node of the tree that libxml2 builds; a text stands for a CDATA section too. There are no
entity references. Characters stand for the bytes (`xmlChar`) of the content. -/
inductive XmlNode
  | element (name : String) (children : List XmlNode)
  | text (content : List Char)
  | comment (content : List Char)
  | pi (target : String) (content : Option (List Char))

namespace XmlNode

/-- `name`, as libxml2 sets it. -/
def name : XmlNode → String
  | element name _ => name
  | text _ => "text"
  | comment _ => "comment"
  | pi target _ => target

/-- `xmlChildrenNode` and its `next`s. -/
def children : XmlNode → List XmlNode
  | element _ children => children
  | _ => []

mutual

/-- The text of a node and its descendants (`xmlBufGetNodeContent`). -/
def textContent : XmlNode → List Char
  | element _ children => textContents children
  | text content => content
  | comment _ => []
  | pi _ _ => []

/-- The text of nodes and their descendants. -/
def textContents : List XmlNode → List Char
  | [] => []
  | node :: rest => node.textContent ++ textContents rest

end

/-- `xmlNodeGetContent` of a node; `none` is `NULL`. -/
def xmlNodeGetContent : XmlNode → Option (List Char)
  | element _ children => some (textContents children)
  | text content => some content
  | comment content => some content
  | pi _ content => content

/-- An element that contains a text. -/
def leaf (name content : String) : XmlNode := element name [text content.toList]

/-- The first child with a name. -/
def child? (node : XmlNode) (key : String) : Option XmlNode :=
  node.children.find? fun subNode ↦ subNode.name = key

/-- `xmlNodeGetContent(subNode->xmlChildrenNode)`: the content of the first child. -/
def firstContent (subNode : XmlNode) : Option (List Char) :=
  subNode.children.head?.bind xmlNodeGetContent

end XmlNode

/-! ### Numbers and tokens of a string -/

/-- `isspace`. -/
def isspace (c : Char) : Bool :=
  c ∈ [' ', '\t', '\n', '\x0b', '\x0c', '\x0d']

/-- The value of decimal digits. -/
def decimal (digits : List Char) : ℕ :=
  digits.foldl (fun n c ↦ 10 * n + (c.toNat - '0'.toNat)) 0

/-- The number that `%d` of `sscanf` converts: white space, a sign, digits. -/
def sscanf (s : List Char) : Option ℤ :=
  match s.dropWhile isspace with
  | '-' :: s =>
    let digits := s.takeWhile Char.isDigit
    if digits = [] then none else some (-decimal digits)
  | '+' :: s =>
    let digits := s.takeWhile Char.isDigit
    if digits = [] then none else some (decimal digits)
  | s =>
    let digits := s.takeWhile Char.isDigit
    if digits = [] then none else some (decimal digits)

/-- The `int` that `%d` stores: the nearest 64-bit integer, truncated. -/
def toInt (n : ℤ) : Word := BitVec.ofInt 32 (max (-2 ^ 63) (min n (2 ^ 63 - 1)))

/-- The number that a child of an element contains. -/
def XmlNode.number (node : XmlNode) (key : String) : Option ℤ :=
  ((node.child? key).bind XmlNode.firstContent).bind sscanf

/-- A call of `strtok` for the separator `.`: the next token, and what is behind its separator. -/
def strtok (s : List Char) : Option (List Char × List Char) :=
  match s.dropWhile (· = '.') with
  | [] => none
  | c :: s => some ((c :: s).takeWhile (· ≠ '.'), ((c :: s).dropWhile (· ≠ '.')).tail)

/-- What depends on the stack, by the place of its use. -/
structure Junk where
  /-- What an uninitialised `index` holds. -/
  index : List ℕ → Word
  /-- What is left of the text that is still to be read after `sscanf` has written an `int` into the
  byte `index`. -/
  spill : List ℕ → Word → List Char → List Char

/-- The values for the uses at one place of the enclosing loop. -/
def Junk.at (junk : Junk) (i : ℕ) : Junk where
  index place := junk.index (i :: place)
  spill place := junk.spill (i :: place)

/-- An `int` that is written into the byte `index` does not hit the text. -/
def Junk.KeepsText (junk : Junk) : Prop := ∀ place v text, junk.spill place v text = text

theorem Junk.KeepsText.at {junk : Junk} (h : junk.KeepsText) (i : ℕ) : (junk.at i).KeepsText :=
  fun place ↦ h (i :: place)

/-- A stack of zeros, with room behind `index`. -/
def Junk.zero : Junk := ⟨fun _ ↦ 0, fun _ _ text ↦ text⟩

theorem Junk.keepsText_zero : Junk.zero.KeepsText := fun _ _ _ ↦ rfl

/-! ### Memory -/

/-- The bytes of an object, by their offsets. -/
abbrev Mem := ℕ → UChar

/-- `memset` with 0. -/
def Mem.zero : Mem := fun _ ↦ 0

/-- Store an `int`, the least significant byte first. -/
def Mem.storeInt (mem : Mem) (addr : ℕ) (v : Word) : Mem := fun a ↦
  if addr ≤ a ∧ a < addr + 4 then (v >>> (8 * (a - addr))).setWidth 8 else mem a

section Mem

variable (mem : Mem) (addr : ℕ) (v : Word)

@[simp] theorem Mem.storeInt_self : mem.storeInt addr v addr = v.setWidth 8 := by
  simp [Mem.storeInt]

theorem Mem.storeInt_of_mem {a : ℕ} (h : addr ≤ a) (h' : a < addr + 4) :
    mem.storeInt addr v a = (v >>> (8 * (a - addr))).setWidth 8 := if_pos ⟨h, h'⟩

theorem Mem.storeInt_of_lt {a : ℕ} (h : a < addr) : mem.storeInt addr v a = mem a :=
  if_neg fun ha ↦ absurd ha.1 h.not_ge

end Mem

/-! ### The loop of `fillInfo` -/

/-- Accesses outside an object, and the use of a null pointer. -/
inductive LoadFault
  /-- `strcpy` of a text of 32 bytes or more into `szKeyCopy`. -/
  | szKeyCopy
  /-- `sscanf` of the content of a node that has none. -/
  | szKey
  /-- An access to `netItem` that leaves the fields of the area before `buildList`. -/
  | netItem
  deriving DecidableEq, Repr

/-- The variables of the loop, with the memory that `contentAddr` points into. -/
structure Fill where
  mem : Mem
  contentAddr : ℕ
  keyIndex : ℕ

/-- A name with the prefix `NET`. -/
def isNet (key : String) : Bool := key.toList.take 3 = "NET".toList

/-- The loop over the tokens of an address: `n` bytes from the `j`-th on, if there are so many
tokens. -/
def storeTokens (junk : Junk) (addr : ℕ) : ℕ → ℕ → List Char → Mem → Mem
  | 0, _, _, mem => mem
  | n + 1, j, text, mem =>
    match strtok text with
    | none => mem
    | some (str, rest) =>
      match sscanf str with
      | some v =>
        storeTokens junk addr n (j + 1) (junk.spill [j] (toInt v) rest)
          (Function.update mem (addr + j) ((toInt v).setWidth 8))
      | none =>
        storeTokens junk addr n (j + 1) rest
          (Function.update mem (addr + j) ((junk.index [j]).setWidth 8))

/-- The four bytes of an address, from its text. -/
def storeIpAddress (junk : Junk) (mem : Mem) (addr : ℕ) (szKeyCopy : List Char) : Mem :=
  storeTokens junk addr 4 0 szKeyCopy mem

/-- One name of the table. -/
def fillKey (node : XmlNode) (size : ℕ) (junk : Junk) (key : String) (s : Fill) :
    Except LoadFault Fill :=
  match node.child? key with
  | none => .ok { s with contentAddr := s.contentAddr + size }
  | some subNode =>
    match subNode.firstContent with
    | none => .ok s
    | some szKey =>
      if isNet key then
        if 32 ≤ szKey.length then .error .szKeyCopy
        else .ok ⟨storeIpAddress junk s.mem s.contentAddr szKey, s.contentAddr + 4,
          s.keyIndex + 1⟩
      else .ok ⟨s.mem.storeInt s.contentAddr ((sscanf szKey).elim (junk.index []) toInt),
        s.contentAddr + 1, s.keyIndex + 1⟩

/-- The names of the table from the `i`-th on. -/
def fillKeys (node : XmlNode) (size : ℕ) (junk : Junk) : ℕ → List String → Fill →
    Except LoadFault Fill
  | _, [], s => .ok s
  | i, key :: info, s => do
    let s ← fillKey node size (junk.at i) key s
    fillKeys node size junk (i + 1) info s

/-- `fillInfo`: the memory after it, and the number of values stored. -/
def fillInfo (info : List String) (node : XmlNode) (contentAddr size : ℕ) (junk : Junk)
    (mem : Mem) : Except LoadFault (Mem × ℕ) := do
  let s ← fillKeys node size junk 0 info ⟨mem, contentAddr, 0⟩
  return (s.mem, s.keyIndex)

section Keys

variable {node subNode : XmlNode} {size : ℕ} {junk : Junk} {key : String} {s : Fill}
  {szKey : List Char}

/-- A missing child leaves a gap. -/
theorem fillKey_of_missing (h : node.child? key = none) :
    fillKey node size junk key s = .ok { s with contentAddr := s.contentAddr + size } := by
  simp [fillKey, h]

/-- An empty child leaves none. -/
theorem fillKey_of_empty (h : node.child? key = some subNode) (hf : subNode.firstContent = none) :
    fillKey node size junk key s = .ok s := by
  simp [fillKey, h, hf]

/-- A number is stored as an `int`. -/
theorem fillKey_of_content (hnet : isNet key = false) (h : node.child? key = some subNode)
    (hf : subNode.firstContent = some szKey) :
    fillKey node size junk key s =
      .ok ⟨s.mem.storeInt s.contentAddr ((sscanf szKey).elim (junk.index []) toInt),
        s.contentAddr + 1, s.keyIndex + 1⟩ := by
  simp [fillKey, h, hf, hnet]

end Keys

/-! ### Faults -/

/-- `fillInfo` faults at this child: an address with a text that `szKeyCopy` has no room for. -/
def Overflows (node : XmlNode) (key : String) : Prop :=
  isNet key ∧ ∃ subNode ∈ node.child? key, ∃ szKey ∈ subNode.firstContent, 32 ≤ szKey.length

section Faults

variable {node : XmlNode} {key : String}

theorem fillKey_isOk_iff (size : ℕ) (junk : Junk) (s : Fill) :
    (∃ s', fillKey node size junk key s = .ok s') ↔ ¬ Overflows node key := by
  simp only [fillKey, Overflows]
  cases hc : node.child? key with
  | none => simp
  | some subNode =>
    cases hf : subNode.firstContent with
    | none => simp [hf]
    | some szKey =>
      by_cases hnet : isNet key <;> by_cases hlen : 32 ≤ szKey.length <;> simp [hnet, hlen, hf]

theorem fillKeys_isOk_iff (size : ℕ) (junk : Junk) (i : ℕ) (info : List String) (s : Fill) :
    (∃ s', fillKeys node size junk i info s = .ok s') ↔ ∀ key ∈ info, ¬ Overflows node key := by
  induction info generalizing i s with
  | nil => simp [fillKeys]
  | cons key info ih =>
    rw [List.forall_mem_cons, ← fillKey_isOk_iff size (junk.at i) s, fillKeys]
    cases hkey : fillKey node size (junk.at i) key s with
    | ok s' =>
      show (∃ s'', fillKeys node size junk (i + 1) info s' = .ok s'') ↔ _
      rw [ih]
      simp
    | error e => simp [bind, Except.bind]

/-- **`fillInfo` faults** exactly if the text of one of the addresses is too long. -/
theorem fillInfo_isOk_iff (info : List String) (node : XmlNode) (contentAddr size : ℕ)
    (junk : Junk) (mem : Mem) :
    (∃ r, fillInfo info node contentAddr size junk mem = .ok r) ↔
      ∀ key ∈ info, ¬ Overflows node key := by
  rw [← fillKeys_isOk_iff size junk 0 info ⟨mem, contentAddr, 0⟩, fillInfo]
  cases fillKeys node size junk 0 info ⟨mem, contentAddr, 0⟩ with
  | ok s' => simp [bind, Except.bind, pure, Except.pure]
  | error e => simp [bind, Except.bind]

/-- A table without addresses cannot fault. -/
theorem fillInfo_isOk {info : List String} (h : ∀ key ∈ info, isNet key = false)
    (node : XmlNode) (contentAddr size : ℕ) (junk : Junk) (mem : Mem) :
    ∃ r, fillInfo info node contentAddr size junk mem = .ok r :=
  (fillInfo_isOk_iff ..).2 fun key hkey hover ↦
    absurd ((h key hkey).symm.trans hover.1) Bool.false_ne_true

end Faults

end DoorIntercom
