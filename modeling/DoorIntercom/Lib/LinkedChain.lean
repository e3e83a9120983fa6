import Mathlib.Data.List.Basic
import Mathlib.Data.List.Nodup
import Mathlib.Logic.Function.Basic

/-!
# Chains of linked nodes

An intrusive singly linked list: a header and the nodes each hold a pointer to the next node. The
pointers are a function from the *links* (the header, and one for each node) to the node a link
points to, `none` being the null pointer. `Chain next r l` says that following the pointers from the
link `r` visits the nodes of `l` and then ends.

A traversal (`advance`) stops at the link in front of a position, and what the operations do there
is two assignments of pointers. `Chain.insert` and `Chain.remove` are the results of those for the
list of nodes, whatever the links off the chain hold.
-/

variable {α : Type*}

/-- Where a pointer to a node is held: in the header of a list, or in a node. -/
inductive Link (α : Type*)
  | header
  | node (p : α)
  deriving DecidableEq

/-- The pointers from `r` on lead through the nodes of a list, and then end. -/
def Chain (next : Link α → Option α) : Link α → List α → Prop
  | r, [] => next r = none
  | r, p :: l => next r = some p ∧ Chain next (.node p) l

namespace Link

/-- The link in front of the place after the nodes of a list. -/
def last : Link α → List α → Link α
  | r, [] => r
  | _, p :: l => last (.node p) l

@[simp] theorem last_nil (r : Link α) : r.last [] = r := rfl

@[simp] theorem last_cons (r : Link α) (p : α) (l : List α) :
    r.last (p :: l) = (Link.node p).last l := rfl

/-- Follow a number of pointers, as far as there are any. -/
def advance (next : Link α → Option α) : ℕ → Link α → Link α
  | 0, r => r
  | n + 1, r =>
    match next r with
    | none => r
    | some p => advance next n (.node p)

/-- The link in front of a place is `r` itself or one of the nodes before it. -/
theorem last_eq_or (r : Link α) (l : List α) : r.last l = r ∨ ∃ p ∈ l, r.last l = .node p := by
  induction l generalizing r with
  | nil => exact Or.inl rfl
  | cons p l ih =>
    refine Or.inr ?_
    rcases ih (.node p) with h | ⟨q, hq, h⟩
    · exact ⟨p, List.mem_cons_self, h⟩
    · exact ⟨q, List.mem_cons_of_mem _ hq, h⟩

/-- The link in front of a place is not one of the other nodes. -/
theorem last_header_ne {l : List α} {p : α} (hp : p ∉ l) : header.last l ≠ node p := by
  rcases header.last_eq_or l with hlast | ⟨q, hq, hlast⟩
  · rw [hlast]
    exact fun hfalse ↦ nomatch hfalse
  · rw [hlast]
    intro hqp
    cases hqp
    exact hp hq

end Link

namespace Chain

variable {next : Link α → Option α} {r : Link α} {l l₁ l₂ l' : List α} {p : α}

/-- The pointers determine the nodes. -/
theorem unique (h : Chain next r l) (h' : Chain next r l') : l = l' := by
  induction l generalizing r l' with
  | nil =>
    cases l' with
    | nil => rfl
    | cons p l' =>
      have hnone : next r = none := h
      rw [h'.1] at hnone
      cases hnone
  | cons p l ih =>
    cases l' with
    | nil =>
      have hnone : next r = none := h'
      rw [h.1] at hnone
      cases hnone
    | cons q l' =>
      have hpq := h.1.symm.trans h'.1
      cases hpq
      rw [ih h.2 h'.2]

/-- The rest of a chain is a chain from the link in front of it. -/
theorem drop (h : Chain next r (l₁ ++ l₂)) : Chain next (r.last l₁) l₂ := by
  induction l₁ generalizing r with
  | nil => exact h
  | cons p l₁ ih => exact ih h.2

/-- The pointer of the link in front of a place. -/
theorem next_last (h : Chain next r (l₁ ++ l₂)) : next (r.last l₁) = l₂.head? := by
  have hrest := h.drop
  cases l₂ with
  | nil => exact hrest
  | cons p l₂ => exact hrest.1

/-- **A traversal** stops in front of the position, or at the end. -/
theorem advance_eq (h : Chain next r l) (n : ℕ) :
    r.advance next n = r.last (l.take n) := by
  induction n generalizing r l with
  | zero => rfl
  | succ n ih =>
    cases l with
    | nil =>
      have hnone : next r = none := h
      simp [Link.advance, hnone]
    | cons p l =>
      rw [Link.advance, h.1, List.take_succ_cons, Link.last_cons]
      exact ih h.2

section Update

variable [DecidableEq α]

/-- A link that is assigned null ends its chain. -/
theorem cleared (next : Link α → Option α) (r : Link α) :
    Chain (Function.update next r none) r [] := by
  rw [Chain, Function.update_self]

/-- An assignment off the chain leaves it as it is. -/
theorem update (h : Chain next r l) {r' : Link α} (v : Option α) (hr : r' ≠ r)
    (hl : ∀ q ∈ l, r' ≠ .node q) : Chain (Function.update next r' v) r l := by
  induction l generalizing r with
  | nil => exact (Function.update_of_ne hr.symm ..).trans h
  | cons q l ih =>
    refine ⟨(Function.update_of_ne hr.symm ..).trans h.1, ih h.2 (hl q List.mem_cons_self) ?_⟩
    exact fun q' hq' ↦ hl q' (List.mem_cons_of_mem _ hq')

/-- **The chain with a new end.** The link in front of a place is assigned, and from its new pointer
on the nodes of `l'` follow. -/
theorem relink (h : Chain next r (l₁ ++ l₂)) (hnodup : l₁.Nodup) (hr : ∀ q ∈ l₁, r ≠ .node q)
    {v : Option α} (hnew : Chain (Function.update next (r.last l₁) v) (r.last l₁) l') :
    Chain (Function.update next (r.last l₁) v) r (l₁ ++ l') := by
  induction l₁ generalizing r with
  | nil => exact hnew
  | cons p l₁ ih =>
    rw [List.nodup_cons] at hnodup
    have hpl : ∀ q ∈ l₁, Link.node p ≠ .node q := fun q hq hpq ↦ by
      cases hpq
      exact hnodup.1 hq
    refine ⟨?_, ih h.2 hnodup.2 hpl hnew⟩
    refine (Function.update_of_ne ?_ ..).trans h.1
    -- the link in front of the place is `p` or a later node, and `r` is neither
    rcases (Link.node p).last_eq_or l₁ with hlast | ⟨q, hq, hlast⟩
    · rw [Link.last_cons, hlast]
      exact hr p List.mem_cons_self
    · rw [Link.last_cons, hlast]
      exact hr q (List.mem_cons_of_mem _ hq)

/-- **Insertion.** A node off the chain gets the pointer of the link in front of a place, and then
becomes the node it points to. -/
theorem insert (h : Chain next .header (l₁ ++ l₂)) (hnodup : (l₁ ++ l₂).Nodup)
    (hp : p ∉ l₁ ++ l₂) :
    Chain (Function.update (Function.update next (.node p) (next (Link.header.last l₁)))
        (Link.header.last l₁) (some p))
      .header (l₁ ++ p :: l₂) := by
  have hne : Link.header.last l₁ ≠ .node p :=
    Link.last_header_ne fun hin ↦ hp (List.mem_append_left _ hin)
  have hoff : ∀ q ∈ l₁ ++ l₂, Link.node p ≠ .node q := by
    intro q hq hpq
    cases hpq
    exact hp hq
  have hset : Chain (Function.update next (.node p) (next (Link.header.last l₁))) .header
      (l₁ ++ l₂) := h.update _ (fun hfalse ↦ nomatch hfalse) hoff
  have hl₂ : ∀ q ∈ l₂, Link.header.last l₁ ≠ .node q := fun q hq ↦
    Link.last_header_ne fun hin ↦ (List.nodup_append.1 hnodup).2.2 q hin q hq rfl
  refine hset.relink (List.nodup_append.1 hnodup).1 (fun _ _ hfalse ↦ nomatch hfalse) ?_
  refine ⟨Function.update_self .., ?_⟩
  -- the new node leads to what the link led to, and the chain from there is as before
  cases l₂ with
  | nil =>
    refine (Function.update_of_ne hne.symm ..).trans ((Function.update_self ..).trans ?_)
    exact h.next_last
  | cons q l₂ =>
    have hqp : Chain next (.node q) l₂ := h.drop.2
    refine ⟨?_, ?_⟩
    · refine (Function.update_of_ne hne.symm ..).trans ((Function.update_self ..).trans ?_)
      exact h.next_last
    · refine (hqp.update _ (hoff q (List.mem_append_right _ List.mem_cons_self)) ?_).update _
        (hl₂ q List.mem_cons_self) fun q' hq' ↦ hl₂ q' (List.mem_cons_of_mem _ hq')
      exact fun q' hq' ↦ hoff q' (List.mem_append_right _ (List.mem_cons_of_mem _ hq'))

/-- **Removal.** The link in front of a node gets the pointer of the node. -/
theorem remove (h : Chain next .header (l₁ ++ p :: l₂)) (hnodup : (l₁ ++ p :: l₂).Nodup) :
    Chain (Function.update next (Link.header.last l₁) (next (.node p))) .header (l₁ ++ l₂) := by
  obtain ⟨hnodup₁, hnodup₂, hdisj⟩ := List.nodup_append.1 hnodup
  have hl₂ : ∀ q ∈ p :: l₂, Link.header.last l₁ ≠ .node q := fun q hq ↦
    Link.last_header_ne fun hin ↦ hdisj q hin q hq rfl
  have hrest : Chain next (.node p) l₂ := h.drop.2
  refine h.relink hnodup₁ (fun _ _ hfalse ↦ nomatch hfalse) ?_
  cases l₂ with
  | nil => exact (Function.update_self ..).trans hrest
  | cons q l₂ =>
    refine ⟨(Function.update_self ..).trans hrest.1, ?_⟩
    exact hrest.2.update _ (hl₂ q (by simp)) fun q' hq' ↦ hl₂ q' (by simp [hq'])

end Update

end Chain
