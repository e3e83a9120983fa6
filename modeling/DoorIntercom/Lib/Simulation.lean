import Mathlib.Data.List.Basic

/-!
# Simulation of fallible computations

Two computations that may fail, the second one a description of the first. The first one may have
limits that the description does not know: a counter that overflows, a table that is full.
`Simulates limits R x y` says that `x` has a result exactly if `y` has one and the limits hold, and
that the results are related by `R`.

`Simulates.bind` composes simulations along a sequence, with the limits of both parts.
-/

universe u v

variable {ε δ : Type*} {α α' : Type u} {β β' : Type v} {limits limits' : Prop}
  {R : α → β → Prop} {S : α' → β' → Prop}

/-- Within the limits, `x` does what `y` does. -/
structure Simulates (limits : Prop) (R : α → β → Prop) (x : Except ε α) (y : Except δ β) :
    Prop where
  /-- What `x` does is done by `y`, and is within the limits. -/
  sound : ∀ a, x = .ok a → limits ∧ ∃ b, y = .ok b ∧ R a b
  /-- Within the limits, `x` does not fail where `y` does not. -/
  complete : limits → ∀ b, y = .ok b → ∃ a, x = .ok a

namespace Simulates

variable {x : Except ε α} {y : Except δ β}

/-- Both have a result. -/
theorem of_ok {a : α} {b : β} (hlimits : limits) (h : R a b) :
    Simulates limits R (.ok a : Except ε α) (.ok b : Except δ β) where
  sound a' ha' := by
    cases ha'
    exact ⟨hlimits, b, rfl, h⟩
  complete _ _ _ := ⟨a, rfl⟩

/-- Both fail. -/
theorem of_error (e : ε) (d : δ) :
    Simulates limits R (.error e : Except ε α) (.error d : Except δ β) where
  sound _ ha := nomatch ha
  complete _ _ hb := nomatch hb

/-- The limits are reached. -/
theorem of_not_limits (h : ¬ limits) (e : ε) (y : Except δ β) :
    Simulates limits R (.error e : Except ε α) y where
  sound _ ha := nomatch ha
  complete hlimits := absurd hlimits h

/-- **When there is a result.** -/
theorem isOk_iff (h : Simulates limits R x y) :
    (∃ a, x = .ok a) ↔ limits ∧ ∃ b, y = .ok b := by
  constructor
  · rintro ⟨a, ha⟩
    obtain ⟨hlimits, b, hb, -⟩ := h.sound a ha
    exact ⟨hlimits, b, hb⟩
  · rintro ⟨hlimits, b, hb⟩
    exact h.complete hlimits b hb

theorem congr (h : Simulates limits R x y) (hiff : limits ↔ limits') :
    Simulates limits' R x y where
  sound a ha := ⟨hiff.1 (h.sound a ha).1, (h.sound a ha).2⟩
  complete hlimits := h.complete (hiff.2 hlimits)

/-- **The rule for sequences.** -/
theorem bind (h : Simulates limits R x y) {k : α → Except ε α'} {k' : β → Except δ β'}
    (hk : ∀ a b, y = .ok b → R a b → Simulates limits' S (k a) (k' b)) :
    Simulates (limits ∧ limits') S (x >>= k) (y >>= k') where
  sound a' ha' := by
    cases x with
    | error e => cases ha'
    | ok a =>
      obtain ⟨hlimits, b, rfl, hR⟩ := h.sound a rfl
      obtain ⟨hlimits', hb'⟩ := (hk a b rfl hR).sound a' ha'
      exact ⟨⟨hlimits, hlimits'⟩, hb'⟩
  complete hboth b' hb' := by
    cases y with
    | error d => cases hb'
    | ok b =>
      obtain ⟨a, rfl⟩ := h.complete hboth.1 b rfl
      obtain ⟨-, b₀, hb₀, hR⟩ := h.sound a rfl
      cases hb₀
      exact (hk a b rfl hR).complete hboth.2 b' hb'

/-- A description with a function applied to its result. -/
theorem map_right (h : Simulates limits R x y) {f : β → β'} {S : α → β' → Prop}
    (hS : ∀ a b, R a b → S a (f b)) : Simulates limits S x (y.map f) where
  sound a ha := by
    obtain ⟨hlimits, b, rfl, hR⟩ := h.sound a ha
    exact ⟨hlimits, f b, rfl, hS a b hR⟩
  complete hlimits b' hb' := by
    cases y with
    | error d => cases hb'
    | ok b => exact h.complete hlimits b rfl

/-- A function applied to the result of the computation. -/
theorem map_left (h : Simulates limits R x y) {f : α → α'} {S : α' → β → Prop}
    (hS : ∀ a b, R a b → S (f a) b) : Simulates limits S (x.map f) y where
  sound a' ha' := by
    cases x with
    | error e => cases ha'
    | ok a =>
      cases ha'
      obtain ⟨hlimits, b, hb, hR⟩ := h.sound a rfl
      exact ⟨hlimits, b, hb, hS a b hR⟩
  complete hlimits b hb := by
    obtain ⟨a, rfl⟩ := h.complete hlimits b hb
    exact ⟨f a, rfl⟩

/-- Functions applied to both results. -/
theorem map (h : Simulates limits R x y) {f : α → α'} {g : β → β'}
    (hS : ∀ a b, R a b → S (f a) (g b)) : Simulates limits S (x.map f) (y.map g) :=
  (h.map_right hS).map_left fun _ _ hab ↦ hab

end Simulates
