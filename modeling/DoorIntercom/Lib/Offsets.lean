import Mathlib.Data.List.Basic
import Mathlib.Data.List.Nodup
import Mathlib.Data.List.Range

/-!
# Offsets of the pieces of a cut list

A list that is cut into pieces, and the offsets at which the pieces begin (`offsets`). A function
that looks at each piece sees the positions at these offsets only, in order: `filterMap_eq_iff` says
when such a view shows as much as a view of every position.
-/

variable {α β : Type*}

/-- The offsets at which the pieces begin, the first one at `n`. -/
def offsets (n : ℕ) : List (List α) → List ℕ
  | [] => []
  | piece :: pieces => n :: offsets (n + piece.length) pieces

/-- Every offset is a position of the list. -/
theorem offsets_sublist_range' (n : ℕ) {pieces : List (List α)} (hne : ∀ p ∈ pieces, p ≠ []) :
    (offsets n pieces).Sublist (List.range' n pieces.flatten.length) := by
  induction pieces generalizing n with
  | nil => exact List.Sublist.slnil
  | cons piece pieces ih =>
    have hpos : 1 ≤ piece.length := List.length_pos_iff.2 (hne piece List.mem_cons_self)
    have hrest := ih (n + piece.length) fun p hp ↦ hne p (List.mem_cons_of_mem _ hp)
    have hhead : [n].Sublist (List.range' n piece.length) :=
      List.singleton_sublist.2 (List.mem_range'_1.2 ⟨le_refl _, by omega⟩)
    rw [offsets, List.flatten_cons, List.length_append, ← List.range'_append_1]
    exact hhead.append hrest

/-- A function of the pieces that depends on the position of the piece only, seen as a function of
the offsets. -/
theorem filterMap_eq_filterMap_offsets {f : List α → Option β} {g : ℕ → Option β} {l : List α}
    (n : ℕ) {pieces : List (List α)} (hl : l.drop n = pieces.flatten)
    (hf : ∀ piece ∈ pieces, ∀ k rest, l.drop k = piece ++ rest → f piece = g k) :
    pieces.filterMap f = (offsets n pieces).filterMap g := by
  induction pieces generalizing n with
  | nil => rfl
  | cons piece pieces ih =>
    rw [List.flatten_cons] at hl
    have hhead := hf piece List.mem_cons_self n _ hl
    have hrest : l.drop (n + piece.length) = pieces.flatten := by
      rw [← List.drop_drop, hl, List.drop_left]
    have hih := ih (n + piece.length) hrest fun p hp ↦ hf p (List.mem_cons_of_mem _ hp)
    rw [offsets, List.filterMap_cons, List.filterMap_cons, hhead, hih]

/-- **A view of some positions** shows the same as a view of all of them exactly when it misses none
at which there is something to see. -/
theorem filterMap_eq_iff {f : α → Option β} {l m : List α} (h : l.Sublist m) (hm : m.Nodup) :
    l.filterMap f = m.filterMap f ↔ ∀ a ∈ m, (f a).isSome → a ∈ l := by
  induction h with
  | slnil => simp
  | @cons l m a hlm ih =>
    rw [List.nodup_cons] at hm
    have hal : a ∉ l := fun ha ↦ hm.1 (hlm.subset ha)
    simp only [List.mem_cons, forall_eq_or_imp, List.filterMap_cons, ← ih hm.2]
    rcases hfa : f a with _ | b
    · simp
    · have hlen : (l.filterMap f).length ≤ (m.filterMap f).length := (hlm.filterMap f).length_le
      constructor
      · intro heq
        rw [heq, List.length_cons] at hlen
        omega
      · exact fun hall ↦ absurd (hall.1 rfl) hal
  | @cons_cons l m a hlm ih =>
    rw [List.nodup_cons] at hm
    have hiff : (∀ x ∈ m, (f x).isSome → x ∈ a :: l) ↔ ∀ x ∈ m, (f x).isSome → x ∈ l := by
      constructor
      · intro hall x hx hfx
        rcases List.mem_cons.1 (hall x hx hfx) with rfl | hxl
        · exact absurd hx hm.1
        · exact hxl
      · exact fun hall x hx hfx ↦ List.mem_cons_of_mem _ (hall x hx hfx)
    simp only [List.forall_mem_cons, List.mem_cons_self, implies_true, true_and, hiff, ← ih hm.2,
      List.filterMap_cons]
    rcases f a with _ | b
    · rfl
    · simp
