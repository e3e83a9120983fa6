import DoorIntercom.Area.GetAreaInfo
import DoorIntercom.Call.Keypad
import DoorIntercom.Lib.Decimal
import Mathlib.Data.List.TakeWhile

/-!
# Printed addresses

`roomIdGetIP` prints an address with `sprintf`, and `fillInfo` reads the addresses of a document
with `strtok` and `sscanf`. The two agree: what is printed is read back (`readIpAddress_dotted`), so
that a printed address determines the address (`addressText_injective`). That needs room behind the
byte that `sscanf` writes an `int` into: where the text itself lies there, it is not read to its
end. A printed address has 7 to 15 characters, and fits the 16 bytes it is printed into and the 32
bytes it is copied to when it is read.
-/

namespace DoorIntercom

open AreaBlock

/-- `sprintf(name, "%d.%d.%d.%d", …)`. -/
def addressText (ipAddress : IpAddress) : Text :=
  dotted (ipAddress 0) (ipAddress 1) (ipAddress 2) (ipAddress 3)

/-- An address is given by its four octets. -/
theorem octets_eta (ip : IpAddress) : ![ip 0, ip 1, ip 2, ip 3] = ip :=
  funext (Fin.forall_fin_succ.2 ⟨rfl, Fin.forall_fin_succ.2 ⟨rfl, Fin.forall_fin_two.2 ⟨rfl, rfl⟩⟩⟩)

/-! ### Reading a number -/

theorem decimal_eq (digits : List Char) : decimal digits = Nat.ofDigitChars 10 digits 0 := by
  rw [Nat.ofDigitChars_eq_foldl]
  rfl

/-- White space is no digit, and neither are the signs. -/
theorem not_isDigit_of_isspace {c : Char} (h : isspace c) : c.isDigit = false := by
  simp only [isspace, List.mem_cons, List.not_mem_nil, or_false, decide_eq_true_eq] at h
  rcases h with rfl | rfl | rfl | rfl | rfl | rfl <;> decide

/-- `%d` reads the digits that follow. -/
theorem sscanf_eq_of_digits {digits : List Char} (hne : digits ≠ [])
    (h : ∀ c ∈ digits, c.isDigit) : sscanf digits = some ((decimal digits : ℕ) : ℤ) := by
  obtain ⟨c, cs, rfl⟩ := List.exists_cons_of_ne_nil hne
  have hc := h c List.mem_cons_self
  have hspace : isspace c = false := by
    rw [Bool.eq_false_iff]
    intro hs
    exact Bool.false_ne_true ((not_isDigit_of_isspace hs).symm.trans hc)
  have hdrop : (c :: cs).dropWhile isspace = c :: cs :=
    List.dropWhile_cons_of_neg (by simp [hspace])
  have htake : (c :: cs).takeWhile Char.isDigit = c :: cs := List.takeWhile_eq_self_iff.2 h
  have hminus : c ≠ '-' := by
    rintro rfl
    exact absurd hc (by decide)
  have hplus : c ≠ '+' := by
    rintro rfl
    exact absurd hc (by decide)
  rw [sscanf.eq_def, hdrop]
  split
  · next heq => exact absurd (List.cons.inj heq).1 hminus
  · next heq => exact absurd (List.cons.inj heq).1 hplus
  · simp only [htake, if_neg hne]

/-- **A printed number is read back.** -/
theorem sscanf_toDigits (n : ℕ) : sscanf (Nat.toDigits 10 n) = some (n : ℤ) := by
  rw [sscanf_eq_of_digits Nat.toDigits_ne_nil fun c ↦ Decimal.isDigit_of_mem, decimal_eq,
    Nat.ofDigitChars_ten_toDigits]

/-- And so is a negative one. -/
theorem sscanf_ofInt (z : ℤ) : sscanf (Decimal.ofInt z) = some z := by
  cases z with
  | ofNat n => exact sscanf_toDigits n
  | negSucc n =>
    have hdrop : (Decimal.ofInt (.negSucc n)).dropWhile isspace = '-' :: Nat.toDigits 10 (n + 1) :=
      List.dropWhile_cons_of_neg (by decide)
    have htake : (Nat.toDigits 10 (n + 1)).takeWhile Char.isDigit = Nat.toDigits 10 (n + 1) :=
      List.takeWhile_eq_self_iff.2 fun c ↦ Decimal.isDigit_of_mem
    rw [sscanf.eq_def, hdrop]
    simp only [htake, if_neg Nat.toDigits_ne_nil, decimal_eq, Nat.ofDigitChars_ten_toDigits]
    rfl

/-- The `int` of a byte has that byte. -/
theorem setWidth_toInt_toNat (x : Byte) : (toInt (x.toNat : ℤ)).setWidth 8 = x := by
  have hx := x.isLt
  rw [toInt, min_eq_left (by omega), max_eq_right (by omega), BitVec.ofInt_natCast]
  exact BitVec.eq_of_toNat_eq (by rw [BitVec.toNat_setWidth, BitVec.toNat_ofNat]; omega)

/-! ### Reading an address -/

/-- A token that a separator follows. -/
theorem strtok_append_cons {str rest : List Char} (hne : str ≠ []) (hdot : '.' ∉ str) :
    strtok (str ++ '.' :: rest) = some (str, rest) := by
  obtain ⟨c, cs, rfl⟩ := List.exists_cons_of_ne_nil hne
  have hplain : ∀ x ∈ c :: cs, decide (x ≠ '.') = true := fun x hx ↦
    decide_eq_true fun heq ↦ hdot (heq ▸ hx)
  have hdrop : (c :: cs ++ '.' :: rest).dropWhile (· = '.') = c :: (cs ++ '.' :: rest) :=
    List.dropWhile_cons_of_neg (by simpa using hplain c List.mem_cons_self)
  simp only [strtok, hdrop]
  rw [← List.cons_append, List.takeWhile_append_of_pos hplain, List.dropWhile_append_of_pos hplain]
  simp

/-- The last token. -/
theorem strtok_of_notMem {str : List Char} (hne : str ≠ []) (hdot : '.' ∉ str) :
    strtok str = some (str, []) := by
  obtain ⟨c, cs, rfl⟩ := List.exists_cons_of_ne_nil hne
  have hplain : ∀ x ∈ c :: cs, decide (x ≠ '.') = true := fun x hx ↦
    decide_eq_true fun heq ↦ hdot (heq ▸ hx)
  have hdrop : (c :: cs).dropWhile (· = '.') = c :: cs :=
    List.dropWhile_cons_of_neg (by simpa using hplain c List.mem_cons_self)
  simp only [strtok, hdrop]
  rw [List.takeWhile_eq_self_iff.2 hplain, List.dropWhile_eq_nil_iff.2 hplain]
  rfl

section Store

variable {junk : Junk} (mem : Mem) (addr : ℕ) (a b c d : Byte)

/-- **One token** of a printed address. -/
theorem storeTokens_toDigits (hjunk : junk.KeepsText) {text rest : List Char} {n j : ℕ} {x : Byte}
    (htext : strtok text = some (Nat.toDigits 10 x.toNat, rest)) :
    storeTokens junk addr (n + 1) j text mem =
      storeTokens junk addr n (j + 1) rest (Function.update mem (addr + j) x) := by
  rw [storeTokens, htext]
  simp only [sscanf_toDigits, setWidth_toInt_toNat]
  rw [hjunk]

/-- What the tokens of a printed address are stored as. -/
theorem storeIpAddress_dotted (hjunk : junk.KeepsText) :
    storeIpAddress junk mem addr (dotted a b c d) =
    Function.update (Function.update (Function.update (Function.update mem (addr + 0) a)
      (addr + 1) b) (addr + 2) c) (addr + 3) d := by
  have hnumber (x : Byte) (rest : List Char) : strtok (Nat.toDigits 10 x.toNat ++ '.' :: rest) =
      some (Nat.toDigits 10 x.toNat, rest) :=
    strtok_append_cons Nat.toDigits_ne_nil (Decimal.not_mem_toDigits (by decide))
  have hlast : strtok (Nat.toDigits 10 d.toNat) = some (Nat.toDigits 10 d.toNat, []) :=
    strtok_of_notMem Nat.toDigits_ne_nil (Decimal.not_mem_toDigits (by decide))
  rw [storeIpAddress, dotted]
  simp only [List.append_assoc, List.cons_append]
  rw [storeTokens_toDigits _ _ hjunk (hnumber a _), storeTokens_toDigits _ _ hjunk (hnumber b _),
    storeTokens_toDigits _ _ hjunk (hnumber c _), storeTokens_toDigits _ _ hjunk hlast]
  rfl

/-- **A printed address is read back** into the four bytes it is stored in. -/
theorem readIpAddress_dotted (hjunk : junk.KeepsText) :
    readIpAddress (storeIpAddress junk mem addr (dotted a b c d)) addr = ![a, b, c, d] := by
  rw [storeIpAddress_dotted _ _ _ _ _ _ hjunk]
  funext j
  match j with
  | 0 | 1 | 2 | 3 => simp [readIpAddress]

end Store

/-- Three zeros that hit the start of `szKeyCopy`, where the second token begins. -/
example : readIpAddress (storeIpAddress ⟨fun _ ↦ 0, fun _ _ _ ↦ []⟩ .zero 0 "1.2.3.4".toList) 0 =
    ![1, 0, 0, 0] := by
  decide

/-! ### Addresses and their texts -/

/-- **A printed address determines the address.** -/
theorem addressText_injective : Function.Injective addressText := by
  intro x y h
  have hread (ip : IpAddress) : readIpAddress
      (storeIpAddress .zero .zero 0 (addressText ip)) 0 = ip := by
    rw [addressText, readIpAddress_dotted _ _ _ _ _ _ Junk.keepsText_zero]
    exact octets_eta ip
  rw [← hread x, h, hread]

/-- A printed address has at most 15 characters. -/
theorem length_addressText_le (ip : IpAddress) : (addressText ip).length ≤ 15 := by
  have hlen (x : Byte) : (Nat.toDigits 10 x.toNat).length ≤ 3 :=
    Decimal.length_toDigits_le (by decide) (by have := x.isLt; omega)
  have h0 := hlen (ip 0)
  have h1 := hlen (ip 1)
  have h2 := hlen (ip 2)
  have h3 := hlen (ip 3)
  simp only [addressText, dotted, List.length_append, List.length_cons]
  omega

end DoorIntercom
