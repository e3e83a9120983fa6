import Mathlib.Data.List.Nodup

/-!
# Merging a list by keys

`mergeBy key grow as` reads a list from left to right into a list with one element for each key: an
element whose key is new is appended, and one whose key is there already grows the element that has
it. `find?_mergeBy` says what that leaves for a key: the first element with it, grown by the others
in their order. The order among different keys does not matter to it.
-/

section

variable {α κ : Type*} [DecidableEq κ] (key : α → κ) (grow : α → α → α)

/-- Grow the first element with the key of `a`, or append `a`. -/
def mergeInto (l : List α) (a : α) : List α :=
  match l with
  | [] => [a]
  | x :: xs => if key x = key a then grow x a :: xs else x :: mergeInto xs a

/-- Merge a list from left to right. -/
def mergeBy (as : List α) : List α := as.foldl (mergeInto key grow) []

variable {key grow} (hgrow : ∀ x a, key (grow x a) = key x)

include hgrow

/-- The keys after one more element. -/
theorem map_mergeInto (l : List α) (a : α) :
    (mergeInto key grow l a).map key =
      if key a ∈ l.map key then l.map key else l.map key ++ [key a] := by
  induction l with
  | nil => rfl
  | cons x xs ih =>
    rw [mergeInto]
    by_cases hx : key x = key a
    · rw [if_pos hx, List.map_cons, List.map_cons, hgrow, hx, if_pos List.mem_cons_self]
    · rw [if_neg hx, List.map_cons, List.map_cons, ih]
      by_cases ha : key a ∈ xs.map key
      · rw [if_pos ha, if_pos (List.mem_cons_of_mem _ ha)]
      · have ha' : key a ∉ key x :: xs.map key := by
          rw [List.mem_cons, not_or]
          exact ⟨Ne.symm hx, ha⟩
        rw [if_neg ha, if_neg ha', List.cons_append]

theorem nodup_map_mergeInto {l : List α} (h : (l.map key).Nodup) (a : α) :
    ((mergeInto key grow l a).map key).Nodup := by
  rw [map_mergeInto hgrow]
  split_ifs with ha
  · exact h
  · refine List.nodup_append.2 ⟨h, List.pairwise_singleton _ _, ?_⟩
    rintro k hk _ hka rfl
    exact ha (List.mem_singleton.1 hka ▸ hk)

/-- **What is merged under a key**, after one more element. -/
theorem find?_mergeInto (l : List α) (a : α) (k : κ) :
    (mergeInto key grow l a).find? (fun x ↦ key x = k) =
      if key a = k then
        some (((l.find? fun x ↦ key x = k).map fun x ↦ grow x a).getD a)
      else l.find? fun x ↦ key x = k := by
  induction l with
  | nil =>
    by_cases hk : key a = k <;> simp [mergeInto, hk]
  | cons x xs ih =>
    by_cases hx : key x = key a
    · rw [mergeInto, if_pos hx]
      by_cases hk : key a = k
      · simp [hk, hgrow, hx.trans hk]
      · have hxk : key x ≠ k := fun h ↦ hk (hx.symm.trans h)
        simp [hk, hgrow, hxk]
    · rw [mergeInto, if_neg hx]
      by_cases hxk : key x = k
      · have hk : key a ≠ k := fun h ↦ hx (hxk.trans h.symm)
        simp [hk, hxk]
      · rw [List.find?_cons_of_neg (by simpa using hxk), ih,
          List.find?_cons_of_neg (by simpa using hxk)]

theorem nodup_map_foldl_mergeInto {l : List α} (h : (l.map key).Nodup) (as : List α) :
    ((as.foldl (mergeInto key grow) l).map key).Nodup := by
  induction as generalizing l with
  | nil => exact h
  | cons a as ih => exact ih (nodup_map_mergeInto hgrow h a)

/-- The merged elements have different keys. -/
theorem nodup_map_mergeBy (as : List α) : ((mergeBy key grow as).map key).Nodup :=
  nodup_map_foldl_mergeInto hgrow (l := []) List.nodup_nil as

/-- An element that is there grows by every element with its key. -/
theorem find?_foldl_mergeInto_of_some {l : List α} {k : κ} {x : α} (as : List α)
    (h : l.find? (fun x ↦ key x = k) = some x) :
    (as.foldl (mergeInto key grow) l).find? (fun x ↦ key x = k) =
      some ((as.filter fun a ↦ key a = k).foldl grow x) := by
  induction as generalizing l x with
  | nil => exact h
  | cons a as ih =>
    rw [List.foldl_cons]
    by_cases hk : key a = k
    · rw [List.filter_cons_of_pos (by simpa using hk), List.foldl_cons]
      exact ih (by rw [find?_mergeInto hgrow, if_pos hk, h]; rfl)
    · rw [List.filter_cons_of_neg (by simpa using hk)]
      exact ih (by rw [find?_mergeInto hgrow, if_neg hk, h])

/-- **What is merged under a key**: the first element with it, grown by the others in order. -/
theorem find?_mergeBy (as : List α) (k : κ) :
    (mergeBy key grow as).find? (fun x ↦ key x = k) =
      match as.filter fun a ↦ key a = k with
      | [] => none
      | a :: rest => some (rest.foldl grow a) := by
  suffices h : ∀ l : List α, l.find? (fun x ↦ key x = k) = none →
      (as.foldl (mergeInto key grow) l).find? (fun x ↦ key x = k) =
        match as.filter fun a ↦ key a = k with
        | [] => none
        | a :: rest => some (rest.foldl grow a) from h [] rfl
  induction as with
  | nil => exact fun l h ↦ h
  | cons a as ih =>
    intro l h
    rw [List.foldl_cons]
    by_cases hk : key a = k
    · rw [List.filter_cons_of_pos (by simpa using hk)]
      exact find?_foldl_mergeInto_of_some hgrow as
        (by rw [find?_mergeInto hgrow, if_pos hk, h]; rfl)
    · rw [List.filter_cons_of_neg (by simpa using hk)]
      exact ih _ (by rw [find?_mergeInto hgrow, if_neg hk, h])

omit hgrow

/-- `mergeInto` by the index of the first element with the key. -/
theorem mergeInto_eq (l : List α) (a : α) :
    mergeInto key grow l a =
      match l.findIdx? fun x ↦ key x = key a with
      | some i => l.modify i fun x ↦ grow x a
      | none => l ++ [a] := by
  induction l with
  | nil => rfl
  | cons x xs ih =>
    rw [mergeInto, List.findIdx?_cons]
    by_cases hx : key x = key a
    · simp [hx]
    · rw [if_neg hx, ih]
      cases xs.findIdx? fun x ↦ key x = key a <;> simp [hx]

/-- In a list with different keys, the first element with a key is all there is. -/
theorem modify_findIdx?_of_nodup {l : List α} (h : (l.map key).Nodup) {k : κ} {i : ℕ}
    (hi : l.findIdx? (fun x ↦ key x = k) = some i) (f : α → α) :
    l.modify i f = l.map fun x ↦ if key x = k then f x else x := by
  induction l generalizing i with
  | nil => cases hi
  | cons x xs ih =>
    obtain ⟨hx, hxs⟩ := List.nodup_cons.1 h
    rw [List.findIdx?_cons] at hi
    by_cases hk : key x = k
    · rw [if_pos (by simpa using hk)] at hi
      cases hi
      have hrest : ∀ y ∈ xs, (if key y = k then f y else y) = id y := fun y hy ↦
        if_neg fun hy' ↦ hx (List.mem_map.2 ⟨y, hy, hy'.trans hk.symm⟩)
      rw [List.map_cons, if_pos hk, List.map_congr_left hrest, List.map_id]
      rfl
    · rw [if_neg (by simpa using hk)] at hi
      obtain ⟨j, hj, rfl⟩ := Option.map_eq_some_iff.1 hi
      rw [List.map_cons, if_neg hk, ← ih hxs hj]
      rfl

/-- In a list with different keys, the element with a key is the one that is found. -/
theorem exists_mem_key_iff_of_nodup {l : List α} (h : (l.map key).Nodup) {k : κ} {p : α → Prop} :
    (∃ x ∈ l, key x = k ∧ p x) ↔ ∃ x, l.find? (fun x ↦ key x = k) = some x ∧ p x := by
  constructor
  · rintro ⟨x, hx, rfl, hp⟩
    obtain ⟨y, hy⟩ := Option.isSome_iff_exists.1
      (List.find?_isSome.2 ⟨x, hx, by simp⟩ : (l.find? fun y ↦ key y = key x).isSome)
    have hkey : key y = key x := by simpa using List.find?_some hy
    exact ⟨x, by rw [hy, List.inj_on_of_nodup_map h (List.mem_of_find?_eq_some hy) hx hkey], hp⟩
  · rintro ⟨x, hx, hp⟩
    exact ⟨x, List.mem_of_find?_eq_some hx, by simpa using List.find?_some hx, hp⟩

end
