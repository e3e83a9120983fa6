import Mathlib.Data.List.Basic
import Mathlib.Data.List.Infix

/-!
# Lists cut at a separator

A list cut wherever a separator stands that is itself a list. The cut is made from the left: what is
before the first occurrence (`before`) is the first piece, what is behind it (`behind`) is cut in
the same way (`pieces`).

Where no piece contains the separator or ends with a part of it, cutting undoes joining
(`pieces_intercalate`).
-/

namespace Delimited

variable {α : Type*} {sep bs rest piece : List α}

/-- No separator begins within a piece that is followed by one. -/
def Separable (sep piece : List α) : Prop := ¬ sep <:+: piece ++ sep.dropLast

theorem Separable.not_isInfix (h : Separable sep piece) : ¬ sep <:+: piece :=
  fun hinf ↦ h (List.infix_append_of_infix_left hinf)

variable [DecidableEq α]

/-- What is before the first separator; the whole list if there is none. -/
def before (sep : List α) : List α → List α
  | [] => []
  | b :: bs => if sep <+: b :: bs then [] else b :: before sep bs

/-- What is behind the first separator, if there is one. -/
def behind (sep : List α) : List α → Option (List α)
  | [] => none
  | b :: bs => if sep <+: b :: bs then some (bs.drop (sep.length - 1)) else behind sep bs

theorem length_lt_of_behind (h : behind sep bs = some rest) : rest.length < bs.length := by
  induction bs with
  | nil => cases h
  | cons b bs ih =>
    rw [behind] at h
    rw [List.length_cons]
    split_ifs at h with hsep
    · rw [← Option.some.inj h, List.length_drop]
      omega
    · have hlt := ih h
      omega

/-- The pieces between the separators. -/
def pieces (sep bs : List α) : List (List α) :=
  match _h : behind sep bs with
  | none => [bs]
  | some rest => before sep bs :: pieces sep rest
termination_by bs.length
decreasing_by exact length_lt_of_behind _h

theorem pieces_of_none (h : behind sep bs = none) : pieces sep bs = [bs] := by
  rw [pieces]
  split
  · rfl
  · next heq => rw [h] at heq; cases heq

theorem pieces_of_some (h : behind sep bs = some rest) :
    pieces sep bs = before sep bs :: pieces sep rest := by
  rw [pieces]
  split
  · next heq => rw [h] at heq; cases heq
  · next heq => rw [h] at heq; rw [← Option.some.inj heq]

theorem pieces_ne_nil : pieces sep bs ≠ [] := by
  rcases h : behind sep bs with _ | rest
  · rw [pieces_of_none h]
    exact List.cons_ne_nil _ _
  · rw [pieces_of_some h]
    exact List.cons_ne_nil _ _

theorem before_isPrefix : before sep bs <+: bs := by
  induction bs with
  | nil => exact List.prefix_refl _
  | cons b bs ih =>
    rw [before]
    split_ifs with hsep
    · exact List.nil_prefix
    · exact List.cons_prefix_cons.2 ⟨rfl, ih⟩

theorem before_of_none (h : behind sep bs = none) : before sep bs = bs := by
  induction bs with
  | nil => rfl
  | cons b bs ih =>
    rw [behind] at h
    rw [before]
    split_ifs at h with hsep
    rw [if_neg hsep, ih h]

/-- **A list at its first separator.** -/
theorem eq_of_behind (hsep : sep ≠ []) (h : behind sep bs = some rest) :
    bs = before sep bs ++ (sep ++ rest) := by
  induction bs with
  | nil => cases h
  | cons b bs ih =>
    rw [behind] at h
    rw [before]
    by_cases hpre : sep <+: b :: bs
    · rw [if_pos hpre] at h
      obtain ⟨a, as, rfl⟩ := List.exists_cons_of_ne_nil hsep
      obtain ⟨rfl, s, rfl⟩ := List.cons_prefix_cons.1 hpre
      rw [if_pos hpre, ← Option.some.inj h, List.length_cons, Nat.add_sub_cancel, List.drop_left]
      rfl
    · rw [if_neg hpre] at h
      rw [if_neg hpre, List.cons_append, ← ih h]

/-- Where the list is too short there is no separator. -/
theorem behind_of_length_lt (h : bs.length < sep.length) : behind sep bs = none := by
  induction bs with
  | nil => rfl
  | cons b bs ih =>
    have hpre : ¬ sep <+: b :: bs := fun hpre ↦ absurd hpre.length_le (Nat.not_le.2 h)
    rw [List.length_cons] at h
    rw [behind, if_neg hpre, ih (by omega)]

theorem behind_eq_none (hsep : sep ≠ []) (h : ¬ sep <:+: bs) : behind sep bs = none := by
  rcases hbehind : behind sep bs with _ | rest
  · rfl
  · rw [eq_of_behind hsep hbehind] at h
    exact absurd (List.infix_append' _ _ _) h

/-- A piece is cut off where its separator stands. -/
theorem Separable.split (hsep : sep ≠ []) (h : Separable sep piece) :
    before sep (piece ++ (sep ++ rest)) = piece ∧
      behind sep (piece ++ (sep ++ rest)) = some rest := by
  induction piece with
  | nil =>
    obtain ⟨a, as, rfl⟩ := List.exists_cons_of_ne_nil hsep
    have hpre : a :: as <+: a :: (as ++ rest) := ⟨rest, rfl⟩
    rw [List.nil_append, List.cons_append, before, behind, if_pos hpre, if_pos hpre,
      List.length_cons, Nat.add_sub_cancel, List.drop_left]
    exact ⟨rfl, rfl⟩
  | cons b piece ih =>
    have hrest : Separable sep piece := fun hinf ↦ h (List.infix_cons hinf)
    have hpre : ¬ sep <+: b :: (piece ++ (sep ++ rest)) := by
      -- such a separator would end before the last element of the next one
      intro hpre
      have hlong : (b :: piece) ++ sep.dropLast <+: b :: (piece ++ (sep ++ rest)) :=
        List.cons_prefix_cons.2 ⟨rfl, List.prefix_append_right_inj _ |>.2
          ((List.dropLast_prefix sep).trans (List.prefix_append _ _))⟩
      refine h (List.prefix_of_prefix_length_le hpre hlong ?_).isInfix
      rw [List.length_append, List.length_cons, List.length_dropLast]
      omega
    rw [List.cons_append, before, behind, if_neg hpre, if_neg hpre, (ih hrest).1,
      (ih hrest).2]
    exact ⟨rfl, rfl⟩

/-- **Cutting undoes joining.** -/
theorem pieces_intercalate (hsep : sep ≠ []) {ps : List (List α)} (hne : ps ≠ [])
    (h : ∀ piece ∈ ps, Separable sep piece) : pieces sep (sep.intercalate ps) = ps := by
  induction ps with
  | nil => exact absurd rfl hne
  | cons piece ps ih =>
    rw [List.forall_mem_cons] at h
    cases ps with
    | nil =>
      rw [List.intercalate_singleton]
      exact pieces_of_none (behind_eq_none hsep h.1.not_isInfix)
    | cons piece' ps =>
      rw [List.intercalate_cons_cons, List.append_assoc, pieces_of_some (h.1.split hsep).2,
        (h.1.split hsep).1, ih (List.cons_ne_nil _ _) h.2]

end Delimited
