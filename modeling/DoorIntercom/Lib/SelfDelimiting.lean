import Mathlib.Data.List.Basic

/-!
# Self-delimiting codes

An encoding of items that can be decoded from the front of any longer list. A concatenation of
encodings is then decoded item by item (`decodeAll_flatMap_encode`), and two lists of items with the
same concatenation are the same (`flatMap_encode_injective`), whatever the items contain.
-/

/-- An encoding, and a decoding of one item and the rest. -/
structure SelfDelimiting (α β : Type*) where
  encode : α → List β
  decode : List β → Option (α × List β)
  decode_nil : decode [] = none
  decode_encode_append : ∀ a rest, decode (encode a ++ rest) = some (a, rest)

namespace SelfDelimiting

variable {α β : Type*} (c : SelfDelimiting α β)

/-- Up to `n` items from the front of a list. -/
def decodeUpTo : ℕ → List β → List α
  | 0, _ => []
  | n + 1, bs =>
    match c.decode bs with
    | none => []
    | some (a, rest) => a :: decodeUpTo n rest

/-- All items: there are no more of them than elements. -/
def decodeAll (bs : List β) : List α := c.decodeUpTo bs.length bs

theorem encode_ne_nil (a : α) : c.encode a ≠ [] := by
  intro h
  have hdecode := c.decode_encode_append a []
  rw [h, List.nil_append, c.decode_nil] at hdecode
  cases hdecode

theorem length_le_length_flatMap_encode (as : List α) :
    as.length ≤ (as.flatMap c.encode).length := by
  induction as with
  | nil => simp
  | cons a as ih =>
    have hpos := List.length_pos_iff.2 (c.encode_ne_nil a)
    rw [List.flatMap_cons, List.length_append, List.length_cons]
    omega

/-- Items in front of something that is no item. -/
theorem decodeUpTo_flatMap_encode_append {as : List α} {rest : List β} {n : ℕ}
    (hrest : c.decode rest = none) (hn : as.length ≤ n) :
    c.decodeUpTo n (as.flatMap c.encode ++ rest) = as := by
  induction as generalizing n with
  | nil =>
    cases n with
    | zero => rfl
    | succ n =>
      rw [List.flatMap_nil, List.nil_append, decodeUpTo, hrest]
  | cons a as ih =>
    cases n with
    | zero => simp at hn
    | succ n =>
      rw [List.length_cons, Nat.succ_le_succ_iff] at hn
      rw [List.flatMap_cons, List.append_assoc, decodeUpTo, c.decode_encode_append]
      simp only [ih hn]

/-- **Item by item**, up to something that is no item. -/
theorem decodeAll_flatMap_encode_append {as : List α} {rest : List β}
    (hrest : c.decode rest = none) : c.decodeAll (as.flatMap c.encode ++ rest) = as := by
  have hlen := c.length_le_length_flatMap_encode as
  exact c.decodeUpTo_flatMap_encode_append hrest (by rw [List.length_append]; omega)

theorem decodeUpTo_flatMap_encode {as : List α} {n : ℕ} (hn : as.length ≤ n) :
    c.decodeUpTo n (as.flatMap c.encode) = as := by
  have h := c.decodeUpTo_flatMap_encode_append c.decode_nil hn
  rwa [List.append_nil] at h

/-- **Item by item.** -/
theorem decodeAll_flatMap_encode (as : List α) : c.decodeAll (as.flatMap c.encode) = as :=
  c.decodeUpTo_flatMap_encode (c.length_le_length_flatMap_encode as)

/-- **Unique decoding.** -/
theorem flatMap_encode_injective {as bs : List α}
    (h : as.flatMap c.encode = bs.flatMap c.encode) : as = bs := by
  rw [← c.decodeAll_flatMap_encode as, h, c.decodeAll_flatMap_encode]

end SelfDelimiting
