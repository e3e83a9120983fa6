import DoorIntercom.Area.MachineCode
import DoorIntercom.Lib.LinkedChain

/-!
# The linked list

`LinkList.c`: an intrusive list with a header and a separately kept length, which the configuration
keeps its models, builds and cells in. The list and its nodes are memory: a pointer `next` for the
header and for each node, whether the node is in the list or not. The length and the positions are
`int`s.

The list stands for a finite sequence of nodes (`Represents`), and each operation should do to the
list what it says it does to the sequence (`sequenceStep`). For sequences of operations,
`refinesSequence_iff` says when they do: `linklist_deleate` admits the position **one past the
end**, where it follows a null pointer, and the length is an `int`. Everything else is as it should
be, so that a loop with `linklist_get` from 0 to the length visits the sequence
(`map_linklistGet_range`), which is how the lists of the configuration are modelled.
-/

namespace DoorIntercom

/-! ### The functions of `LinkList.c` -/

/-- The pointers of the header and of all nodes, and the length. -/
structure TLinkList (α : Type) where
  next : Link α → Option α
  length : Word

/-- `ret->next` of a null pointer. -/
inductive ListFault
  | next
  deriving DecidableEq, Repr

section Functions

variable {α : Type}

/-- `linklist_length`. -/
def linklistLength (list : Option (TLinkList α)) : Word :=
  match list with
  | some tlist => tlist.length
  | none => -1

/-- `linklist_get`. -/
def linklistGet (list : Option (TLinkList α)) (pos : Word) : Option α :=
  match list with
  | some tlist =>
    if 0 ≤ pos.toInt ∧ pos.toInt ≤ tlist.length.toInt then
      tlist.next (Link.header.advance tlist.next pos.toInt.toNat)
    else none
  | none => none

variable [DecidableEq α]

/-- `linklist_create`, in a memory; `malloc` is taken to succeed. -/
def linklistCreate (next : Link α → Option α) : Option (TLinkList α) :=
  some ⟨Function.update next .header none, 0#32⟩

/-- `linklist_clear`. -/
def linklistClear (list : Option (TLinkList α)) : Option (TLinkList α) :=
  list.map fun tlist ↦ ⟨Function.update tlist.next .header none, 0#32⟩

/-- `linklist_insert`: the result and the list. -/
def linklistInsert (list : Option (TLinkList α)) (pos : Word) (node : Option α) :
    Word × Option (TLinkList α) :=
  match list, node with
  | some tlist, some node =>
    if 0 ≤ pos.toInt then
      let pos := if tlist.length.toInt ≤ pos.toInt then tlist.length else pos
      let current := Link.header.advance tlist.next pos.toInt.toNat
      let next := Function.update tlist.next (.node node) (tlist.next current)
      (1#32, some ⟨Function.update next current (some node), tlist.length + 1#32⟩)
    else (0#32, some tlist)
  | list, _ => (0#32, list)

/-- `linklist_deleate`: the node and the list. -/
def linklistDeleate (list : Option (TLinkList α)) (pos : Word) :
    Except ListFault (Option α × Option (TLinkList α)) :=
  match list with
  | some tlist =>
    if 0 ≤ pos.toInt ∧ pos.toInt ≤ tlist.length.toInt then
      let current := Link.header.advance tlist.next pos.toInt.toNat
      match tlist.next current with
      | some ret =>
        .ok (some ret, some ⟨Function.update tlist.next current (tlist.next (.node ret)),
          tlist.length - 1#32⟩)
      | none => .error .next
    else .ok (none, some tlist)
  | none => .ok (none, none)

end Functions

/-! ### Calls on a list, and on a sequence -/

/-- The calls on a list. -/
inductive ListOp (α : Type)
  | insert (pos : Word) (node : α)
  | get (pos : Word)
  | deleate (pos : Word)
  | clear

/-- What a call returns. -/
inductive ListAnswer (α : Type)
  | ret (n : Word)
  | node (p : Option α)
  | void

section Calls

variable {α : Type}

/-- A call on the list. -/
def listStep [DecidableEq α] (list : Option (TLinkList α)) :
    ListOp α → Except ListFault (ListAnswer α × Option (TLinkList α))
  | .insert pos node =>
    .ok (.ret (linklistInsert list pos (some node)).1, (linklistInsert list pos (some node)).2)
  | .get pos => .ok (.node (linklistGet list pos), list)
  | .deleate pos => (linklistDeleate list pos).map fun r ↦ (.node r.1, r.2)
  | .clear => .ok (.void, linklistClear list)

/-- The node at a position, if there is one. -/
def nodeAt (l : List α) (pos : Word) : Option α :=
  if 0 ≤ pos.toInt then l[pos.toInt.toNat]? else none

/-- **What the calls are for**, on the sequence of the nodes. -/
def sequenceStep (l : List α) : ListOp α → ListAnswer α × List α
  | .insert pos node =>
    if 0 ≤ pos.toInt then (.ret 1#32, l.insertIdx (min pos.toInt.toNat l.length) node)
    else (.ret 0#32, l)
  | .get pos => (.node (nodeAt l pos), l)
  | .deleate pos =>
    (.node (nodeAt l pos), if 0 ≤ pos.toInt then l.eraseIdx pos.toInt.toNat else l)
  | .clear => (.void, [])

/-- The pointers from the header lead through the nodes of the sequence, and the length is right. -/
def Represents (list : Option (TLinkList α)) (l : List α) : Prop :=
  ∃ tlist, list = some tlist ∧ Chain tlist.next .header l ∧ tlist.length.toInt = l.length

/-- Along a sequence of calls, the list represents the sequence and the answers are those of the
sequence. -/
def RefinesSequence [DecidableEq α] : Option (TLinkList α) → List α → List (ListOp α) → Prop
  | list, l, [] => Represents list l
  | list, l, op :: ops => Represents list l ∧
    ∃ list', listStep list op = .ok ((sequenceStep l op).1, list') ∧
      RefinesSequence list' (sequenceStep l op).2 ops

/-- At every call, a condition on the sequence before it. -/
def Along (P : List α → ListOp α → Prop) : List α → List (ListOp α) → Prop
  | _, [] => True
  | l, op :: ops => P l op ∧ Along P (sequenceStep l op).2 ops

/-- A node that is inserted is in no list. -/
def Fresh (l : List α) : ListOp α → Prop
  | .insert _ node => node ∉ l
  | _ => True

/-- The length stays an `int`, and no position is one past the end of a list that a node is deleted
from. -/
def InBounds (l : List α) : ListOp α → Prop
  | .insert pos _ => 0 ≤ pos.toInt → l.length + 1 < 2 ^ 31
  | .deleate pos => pos.toInt ≠ l.length
  | _ => True

instance (P : List α → ListOp α → Prop) [∀ l op, Decidable (P l op)] :
    ∀ l ops, Decidable (Along P l ops)
  | _, [] => isTrue trivial
  | l, op :: ops =>
    have := instDecidableAlong P (sequenceStep l op).2 ops
    inferInstanceAs (Decidable (P l op ∧ Along P (sequenceStep l op).2 ops))

instance [DecidableEq α] (l : List α) : ∀ op, Decidable (Fresh l op)
  | .insert _ node => inferInstanceAs (Decidable (node ∉ l))
  | .get _ | .deleate _ | .clear => isTrue trivial

instance (l : List α) : ∀ op, Decidable (InBounds l op)
  | .insert pos _ => inferInstanceAs (Decidable (0 ≤ pos.toInt → l.length + 1 < 2 ^ 31))
  | .deleate pos => inferInstanceAs (Decidable (pos.toInt ≠ l.length))
  | .get _ | .clear => isTrue trivial

end Calls

/-! ### One call -/

section Step

variable {α : Type} {list : Option (TLinkList α)} {l : List α} {pos : Word} {node : α}
  {op : ListOp α}

theorem insertIdx_eq {i : ℕ} (h : i ≤ l.length) :
    l.insertIdx i node = l.take i ++ node :: l.drop i := by
  induction i generalizing l with
  | zero => simp
  | succ i ih =>
    cases l with
    | nil => simp at h
    | cons p l => simpa using ih (by simpa using h)

/-- Calls on a sequence without repetitions keep it so. -/
theorem Fresh.nodup (hfresh : Fresh l op) (h : l.Nodup) : (sequenceStep l op).2.Nodup := by
  cases op with
  | insert pos node =>
    rw [sequenceStep]
    split_ifs
    · exact (List.perm_insertIdx node l (min_le_right ..)).nodup_iff.2
        (List.nodup_cons.2 ⟨hfresh, h⟩)
    · exact h
  | get pos => exact h
  | deleate pos =>
    rw [sequenceStep]
    dsimp only
    split_ifs
    · exact h.eraseIdx _
    · exact h
  | clear => exact List.nodup_nil

/-- The nodes are counted by an `int`. -/
theorem Represents.length_lt (h : Represents list l) : (l.length : ℤ) < 2 ^ 31 := by
  obtain ⟨tlist, -, -, hlength⟩ := h
  have := BitVec.two_mul_toInt_lt (x := tlist.length)
  omega

/-- **`linklist_get`** finds the node at a position. -/
theorem Represents.get (h : Represents list l) : linklistGet list pos = nodeAt l pos := by
  obtain ⟨tlist, rfl, hchain, hlength⟩ := h
  rw [linklistGet, nodeAt]
  by_cases hpos : 0 ≤ pos.toInt
  · rw [if_pos hpos]
    split_ifs with hle
    · rw [hchain.advance_eq]
      rw [← List.take_append_drop pos.toInt.toNat l] at hchain
      rw [hchain.next_last, List.head?_drop]
    · exact (List.getElem?_eq_none (by omega)).symm
  · rw [if_neg hpos, if_neg fun hle ↦ hpos hle.1]

/-- **A loop over the list** with `linklist_get`, from 0 to the length, visits the sequence. -/
theorem map_linklistGet_range {list : Option (TLinkList α)} {l : List α} (h : Represents list l) :
    (List.range (linklistLength list).toInt.toNat).map
      (fun i ↦ linklistGet list (BitVec.ofNat 32 i)) = l.map some := by
  have hbound := h.length_lt
  obtain ⟨tlist, rfl, hchain, hlength⟩ := h
  have hsize : (linklistLength (some tlist)).toInt.toNat = l.length := by
    rw [linklistLength, hlength, Int.toNat_natCast]
  rw [hsize]
  refine List.ext_getElem (by simp) fun i hi hi' ↦ ?_
  have hlt : i < l.length := by simpa using hi
  have hint : (BitVec.ofNat 32 i).toInt = i := by
    rw [BitVec.toInt_eq_toNat_cond, BitVec.toNat_ofNat, Nat.mod_eq_of_lt (by omega),
      if_pos (by omega)]
  rw [List.getElem_map, List.getElem_range, Represents.get ⟨tlist, rfl, hchain, hlength⟩, nodeAt,
    hint, if_pos (by omega), Int.toNat_natCast, List.getElem?_eq_getElem hlt, List.getElem_map]

variable [DecidableEq α]

/-- **`linklist_insert`** puts the node at its position, or at the end, as long as the length is an
`int`. -/
theorem Represents.insert (h : Represents list l) (hnodup : l.Nodup) (hfresh : node ∉ l)
    (hpos : 0 ≤ pos.toInt) :
    ∃ tlist, linklistInsert list pos (some node) = (1#32, some tlist) ∧
      Chain tlist.next .header (l.insertIdx (min pos.toInt.toNat l.length) node) ∧
        (tlist.length.toInt = l.length + 1 ↔ l.length + 1 < 2 ^ 31) := by
  have hbound := h.length_lt
  obtain ⟨tlist, rfl, hchain, hlength⟩ := h
  have hstop : (if tlist.length.toInt ≤ pos.toInt then tlist.length else pos).toInt.toNat =
      min pos.toInt.toNat l.length := by
    split_ifs <;> omega
  refine ⟨_, by rw [linklistInsert, if_pos hpos], ?_, ?_⟩
  · dsimp only
    rw [hstop, hchain.advance_eq, insertIdx_eq (min_le_right ..)]
    rw [← List.take_append_drop (min pos.toInt.toNat l.length) l] at hchain hnodup hfresh
    exact hchain.insert hnodup hfresh
  · dsimp only
    rw [BitVec.toInt_add, hlength, show (1#32).toInt = 1 from rfl, Int.bmod_def]
    omega

/-- **`linklist_deleate`** removes the node at a position, and faults one past the end. -/
theorem Represents.deleate (h : Represents list l) (hnodup : l.Nodup) :
    (pos.toInt = l.length → linklistDeleate list pos = .error .next) ∧
      (pos.toInt ≠ l.length → ∃ list', linklistDeleate list pos = .ok (nodeAt l pos, list') ∧
        Represents list' (if 0 ≤ pos.toInt then l.eraseIdx pos.toInt.toNat else l)) := by
  have hbound := h.length_lt
  obtain ⟨tlist, rfl, hchain, hlength⟩ := h
  constructor
  · intro hpos
    have htake : l.take pos.toInt.toNat = l := List.take_of_length_le (by omega)
    have hnone : tlist.next (Link.header.last l) = none := by
      rw [← List.append_nil l] at hchain
      exact hchain.next_last
    have hin : 0 ≤ pos.toInt ∧ pos.toInt ≤ tlist.length.toInt := by omega
    simp only [linklistDeleate, if_pos hin, hchain.advance_eq, htake, hnone]
  · intro hpos
    by_cases hin : 0 ≤ pos.toInt ∧ pos.toInt ≤ tlist.length.toInt
    · have hlt : pos.toInt.toNat < l.length := by omega
      have hsplit : l = l.take pos.toInt.toNat ++
          l[pos.toInt.toNat] :: l.drop (pos.toInt.toNat + 1) := by
        rw [← List.drop_eq_getElem_cons hlt, List.take_append_drop]
      have hnext : tlist.next (Link.header.last (l.take pos.toInt.toNat)) =
          some l[pos.toInt.toNat] := by
        rw [hsplit] at hchain
        exact hchain.next_last
      simp only [linklistDeleate, if_pos hin, hchain.advance_eq, hnext, nodeAt, if_pos hin.1,
        List.getElem?_eq_getElem hlt]
      refine ⟨_, rfl, _, rfl, ?_, ?_⟩
      · rw [List.eraseIdx_eq_take_drop_succ]
        have hremove := hchain
        rw [hsplit] at hremove hnodup
        exact hremove.remove hnodup
      · dsimp only
        rw [BitVec.toInt_sub, hlength, show (1#32).toInt = 1 from rfl, Int.bmod_def,
          List.length_eraseIdx_of_lt hlt]
        omega
    · have hnone : nodeAt l pos = none := by
        rw [nodeAt]
        split_ifs
        · exact List.getElem?_eq_none (by omega)
        · rfl
      refine ⟨some tlist, by rw [linklistDeleate, if_neg hin, hnone], tlist, rfl, ?_⟩
      have hsame : (if 0 ≤ pos.toInt then l.eraseIdx pos.toInt.toNat else l) = l := by
        split_ifs
        · exact List.eraseIdx_of_length_le (by omega)
        · rfl
      rw [hsame]
      exact ⟨hchain, hlength⟩

/-- A call without its bounds does not do what it is for. -/
theorem Represents.inBounds (h : Represents list l) (hnodup : l.Nodup) (hfresh : Fresh l op)
    {list' : Option (TLinkList α)} (hstep : listStep list op = .ok ((sequenceStep l op).1, list'))
    (h' : Represents list' (sequenceStep l op).2) : InBounds l op := by
  cases op with
  | insert pos node =>
    intro hpos
    obtain ⟨tlist, hinsert, -, hlength⟩ := h.insert hnodup hfresh hpos
    simp only [listStep, hinsert, Except.ok.injEq, Prod.mk.injEq] at hstep
    obtain ⟨-, rfl⟩ := hstep
    obtain ⟨tlist', hsome, -, hlength'⟩ := h'
    cases hsome
    rw [sequenceStep, if_pos hpos, List.length_insertIdx_of_le_length (min_le_right ..)] at hlength'
    exact hlength.1 (by exact_mod_cast hlength')
  | get pos => trivial
  | deleate pos =>
    intro hpos
    rw [listStep, (h.deleate hnodup).1 hpos] at hstep
    cases hstep
  | clear => trivial

/-- **A call within its bounds** does what it is for. -/
theorem Represents.step (h : Represents list l) (hnodup : l.Nodup) (hfresh : Fresh l op)
    (hbounds : InBounds l op) :
    ∃ list', listStep list op = .ok ((sequenceStep l op).1, list') ∧
      Represents list' (sequenceStep l op).2 := by
  cases op with
  | insert pos node =>
    by_cases hpos : 0 ≤ pos.toInt
    · obtain ⟨tlist, hinsert, hchain, hlength⟩ := h.insert hnodup hfresh hpos
      refine ⟨some tlist, ?_, tlist, rfl, ?_, ?_⟩
      · rw [listStep, hinsert, sequenceStep, if_pos hpos]
      · rw [sequenceStep, if_pos hpos]
        exact hchain
      · rw [sequenceStep, if_pos hpos, List.length_insertIdx_of_le_length (min_le_right ..),
          hlength.2 (hbounds hpos), Nat.cast_add, Nat.cast_one]
    · obtain ⟨tlist, rfl, hrep⟩ := h
      refine ⟨some tlist, ?_, ?_⟩
      · rw [listStep, linklistInsert, if_neg hpos, sequenceStep, if_neg hpos]
      · rw [sequenceStep, if_neg hpos]
        exact ⟨tlist, rfl, hrep⟩
  | get pos => exact ⟨list, by rw [listStep, h.get, sequenceStep], h⟩
  | deleate pos =>
    obtain ⟨list', hdeleate, hrep⟩ := (h.deleate hnodup).2 hbounds
    exact ⟨list', by rw [listStep, hdeleate]; rfl, hrep⟩
  | clear =>
    obtain ⟨tlist, rfl, -⟩ := h
    exact ⟨_, rfl, _, rfl, Chain.cleared .., rfl⟩

end Step

/-! ### All sequences of calls -/

section Run

variable {α : Type} [DecidableEq α]

theorem RefinesSequence.represents {list : Option (TLinkList α)} {l : List α}
    {ops : List (ListOp α)} (h : RefinesSequence list l ops) : Represents list l := by
  cases ops with
  | nil => exact h
  | cons op ops => exact h.1

/-- **Every run** from a list that represents a sequence. -/
theorem Represents.refinesSequence_iff {list : Option (TLinkList α)} {l : List α}
    (h : Represents list l) (hnodup : l.Nodup) {ops : List (ListOp α)}
    (hfresh : Along Fresh l ops) :
    RefinesSequence list l ops ↔ Along InBounds l ops := by
  induction ops generalizing list l with
  | nil => exact ⟨fun _ ↦ trivial, fun _ ↦ h⟩
  | cons op ops ih =>
    obtain ⟨hop, hops⟩ := hfresh
    have hnodup' := Fresh.nodup hop hnodup
    constructor
    · rintro ⟨-, list', hstep, hrest⟩
      have h' := hrest.represents
      exact ⟨h.inBounds hnodup hop hstep h', (ih h' hnodup' hops).1 hrest⟩
    · rintro ⟨hbounds, hrest⟩
      obtain ⟨list', hstep, h'⟩ := h.step hnodup hop hbounds
      exact ⟨h, list', hstep, (ih h' hnodup' hops).2 hrest⟩

theorem represents_linklistCreate (next : Link α → Option α) :
    Represents (linklistCreate next) [] :=
  ⟨_, rfl, Chain.cleared .., rfl⟩

/-- **The list refines a finite sequence.** For every sequence of calls on a new list, the length is
the number of nodes and every call does what it is for, without following a null pointer, if and
only if no node is deleted one past the end and the length stays an `int`. -/
theorem refinesSequence_linklistCreate_iff (next : Link α → Option α) {ops : List (ListOp α)}
    (hfresh : Along Fresh [] ops) :
    RefinesSequence (linklistCreate next) [] ops ↔ Along InBounds [] ops :=
  (represents_linklistCreate next).refinesSequence_iff List.nodup_nil hfresh

/-- Two nodes, the second one inserted past the end and the first one deleted. -/
theorem refinesSequence_two_nodes :
    RefinesSequence (linklistCreate fun _ : Link ℕ ↦ some 7) []
      [.insert 0#32 1, .insert 9#32 2, .get 2#32, .deleate 0#32, .get 0#32] :=
  (refinesSequence_linklistCreate_iff _ (by decide)).2 (by decide)

/-- Deleting from an empty list follows a null pointer. -/
theorem not_refinesSequence_deleate_empty :
    Along Fresh [] [(ListOp.deleate 0#32 : ListOp ℕ)] ∧
      ∀ next : Link ℕ → Option ℕ, ¬ RefinesSequence (linklistCreate next) [] [.deleate 0#32] := by
  refine ⟨by decide, ?_⟩
  rintro next ⟨-, list', hstep, -⟩
  rw [listStep, ((represents_linklistCreate next).deleate List.nodup_nil).1 rfl] at hstep
  cases hstep

end Run

end DoorIntercom
