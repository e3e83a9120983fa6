import Mathlib.Data.List.Basic

/-!
# Allocated objects

The memory for the objects of one type. An object is named by the number of its allocation, so a
name is never used again; what is loaded from it is `none` before it is allocated and after it is
freed. Storing to and freeing such a name fails: a second `free` is a failure, and so is a use after
the first one.

Every operation has one lemma for the name it is about, and one for the others.
-/

/-- The objects that were allocated, in order, with `none` for those that were freed. -/
structure Region (α : Type*) where
  objects : List (Option α)

namespace Region

variable {α : Type*} (r : Region α)

/-- Nothing is allocated. -/
def empty : Region α := ⟨[]⟩

/-- The object of a name. -/
def load (p : ℕ) : Option α := (r.objects[p]?).join

/-- Allocate an object. -/
def malloc (a : α) : ℕ × Region α := (r.objects.length, ⟨r.objects ++ [some a]⟩)

/-- Change what a name stands for. -/
def set (p : ℕ) (a : Option α) : Region α := ⟨r.objects.set p a⟩

/-- Store to an allocated object. -/
def store (p : ℕ) (a : α) : Option (Region α) := (r.load p).map fun _ ↦ r.set p (some a)

/-- Free an allocated object. -/
def free (p : ℕ) : Option (Region α) := (r.load p).map fun _ ↦ r.set p none

/-- The number of allocated objects. -/
def size : ℕ := r.objects.countP Option.isSome

variable {r} {p q : ℕ} {a b : α}

theorem lt_of_load (h : r.load p = some a) : p < r.objects.length := by
  by_contra hlt
  rw [load, List.getElem?_eq_none (Nat.not_lt.1 hlt)] at h
  cases h

@[simp] theorem load_malloc_self (a : α) : (r.malloc a).2.load (r.malloc a).1 = some a := by
  simp [malloc, load]

theorem load_malloc_of_load (h : r.load p = some b) (a : α) : (r.malloc a).2.load p = some b := by
  rw [malloc, load, List.getElem?_append_left (lt_of_load h)]
  exact h

/-- Nothing was allocated under a new name. -/
theorem load_malloc_fst (r : Region α) (a : α) : r.load (r.malloc a).1 = none := by
  simp [malloc, load]

/-- A new name is new. -/
theorem ne_malloc_of_load (h : r.load p = some b) (a : α) : p ≠ (r.malloc a).1 :=
  Nat.ne_of_lt (lt_of_load h)

theorem load_set_self (h : r.load p = some b) (a : Option α) : (r.set p a).load p = a := by
  rw [set, load, List.getElem?_set_self (lt_of_load h), Option.join_some]

theorem load_set_of_ne (h : q ≠ p) (a : Option α) : (r.set p a).load q = r.load q := by
  rw [set, load, List.getElem?_set_ne h.symm]
  rfl

theorem store_of_load (h : r.load p = some b) (a : α) : r.store p a = some (r.set p (some a)) := by
  rw [store, h, Option.map_some]

theorem free_of_load (h : r.load p = some b) : r.free p = some (r.set p none) := by
  rw [free, h, Option.map_some]

/-! ### How many objects there are -/

@[simp] theorem size_malloc (r : Region α) (a : α) : (r.malloc a).2.size = r.size + 1 := by
  simp [malloc, size, List.countP_append]

/-- **A name gets something else**, or nothing. -/
theorem size_set (h : r.load p = some b) (a : Option α) :
    (r.set p a).size + 1 = r.size + if a.isSome then 1 else 0 := by
  have hlt := lt_of_load h
  have hsome : r.objects[p].isSome := by
    rw [load, List.getElem?_eq_getElem hlt, Option.join_some] at h
    rw [h, Option.isSome_some]
  have hpos : 0 < r.objects.countP Option.isSome :=
    List.countP_pos_iff.2 ⟨_, List.getElem_mem hlt, hsome⟩
  simp only [size, set, List.countP_set hlt, hsome, if_true]
  omega

theorem size_of_store {r' : Region α} (h : r.store p a = some r') : r'.size = r.size := by
  obtain ⟨b, hload, rfl⟩ := Option.map_eq_some_iff.1 h
  have hsize := size_set hload (some a)
  rwa [Option.isSome_some, if_pos rfl, Nat.add_right_cancel_iff] at hsize

theorem size_of_free {r' : Region α} (h : r.free p = some r') : r'.size + 1 = r.size := by
  obtain ⟨b, hload, rfl⟩ := Option.map_eq_some_iff.1 h
  simpa using size_set hload none

/-- **Freeing** leaves fewer objects. -/
theorem size_lt_of_free {r' : Region α} (h : r.free p = some r') : r'.size < r.size :=
  Nat.lt_of_succ_le (Nat.le_of_eq (size_of_free h))

/-- Nothing is allocated. -/
theorem size_eq_zero_iff : r.size = 0 ↔ ∀ p, r.load p = none := by
  rw [size, List.countP_eq_zero]
  constructor
  · intro h p
    cases hload : r.load p with
    | none => rfl
    | some a =>
      exact absurd rfl (h (some a) (List.mem_of_getElem? (Option.join_eq_some_iff.1 hload)))
  · intro h a ha hsome
    obtain ⟨p, hp⟩ := List.mem_iff_getElem?.1 ha
    have hnone := h p
    rw [load, hp, Option.join_some] at hnone
    rw [hnone] at hsome
    cases hsome

end Region
