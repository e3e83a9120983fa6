import Mathlib.Data.Int.Notation
import DoorIntercom.Call.MainActivity

/-!
# Keypad entry

The room number is typed into the field `mEditText`, and the enter key (136) looks up the address
of the room and starts the call: `onKeyUp` writes the address into the same field and then calls
`callVideo`, which connects only if the field is not empty. The field has a watcher that clears any
text of more than four characters, the address included. So `callVideo` finds an empty field and
asks for a room number instead (`onKeyUp_eq`).

What does connect is `btn_start` after it, with any text in the field (`callVideo_onKeyUp`): this is
`Activity.callVideo`, with the address that the enter key left.

`digit` is `Character.digit` to base ten, and `roomIdGetIP` the native method.
-/

namespace DoorIntercom

/-- A text in the field. -/
abbrev Text := List Char

/-- What the key handler asks for. -/
inductive KeypadEffect
  | toast (message : String)
  | connect (address : Option Text) (port : ℕ)
  deriving DecidableEq, Repr

/-- The field and the two fields of the activity that hold the address. -/
structure Keypad where
  mEditText : Text
  dest_ip : Option Text
  address : Option Text
  deriving DecidableEq, Repr

/-! ### The room number -/

/-- `Integer.valueOf`: a sign at most, then at least one digit. The texts here are too short for an
overflow. -/
def valueOf (digit : Char → Option ℕ) : Text → Option ℤ
  | '-' :: ds => (digits ds).map fun n ↦ -(n : ℤ)
  | '+' :: ds => (digits ds).map fun n ↦ (n : ℤ)
  | ds => (digits ds).map fun n ↦ (n : ℤ)
where
  /-- The number of a text of digits. -/
  digits (ds : Text) : Option ℕ :=
    if ds = [] then none else ds.foldlM (fun n c ↦ (digit c).map (10 * n + ·)) 0

/-- What the enter key makes of the text in the field. -/
inductive KeyEntry
  | incomplete
  | zeros
  | short
  | room (floor room : ℤ)
  deriving DecidableEq, Repr

/-- The first part of `onKeyUp`; `none` is a `NumberFormatException`. One leading zero is dropped. A
text of another length than 2, 3 and 4 leaves floor and room 0. -/
def readKeyEntry (digit : Char → Option ℕ) (roomIdstr : Text) : Option KeyEntry :=
  if roomIdstr.length < 3 then some .incomplete
  else if roomIdstr.head? = some '0' ∧ roomIdstr.tail.head? = some '0' then some .zeros
  else
    let roomIdFix := if roomIdstr.head? = some '0' then roomIdstr.tail else roomIdstr
    if roomIdFix.length = 3 then do
      let floor ← valueOf digit (roomIdFix.take 1)
      let room ← valueOf digit (roomIdFix.drop 1)
      return .room floor room
    else if roomIdFix.length = 4 then do
      let floor ← valueOf digit (roomIdFix.take 2)
      let room ← valueOf digit (roomIdFix.drop 2)
      return .room floor room
    else if roomIdFix.length = 2 then some .short
    else some (.room 0 0)

/-! ### The field -/

/-- `setText` of the field, which runs `afterTextChanged`; that calls `setText("")` if the text has
more than four characters. -/
def setText (text : Text) : Text :=
  if 4 < text.length then setText [] else text
termination_by text.length

/-- The text that the field has in the end. -/
theorem setText_eq (text : Text) : setText text = if text.length ≤ 4 then text else [] := by
  have hnil : setText [] = [] := by
    rw [setText]
    rfl
  rw [setText]
  by_cases hlen : text.length ≤ 4
  · rw [if_neg (Nat.not_lt.2 hlen), if_pos hlen]
  · rw [if_pos (Nat.not_le.1 hlen), if_neg hlen, hnil]

namespace Keypad

/-- `callVideo`. -/
def callVideo (k : Keypad) : List KeypadEffect :=
  if k.mEditText = [] then [.toast "please input roomId"] else [.connect k.address 9000]

/-- `onKeyUp`: the fields after it, the effects, and whether the key is passed on to the
superclass; `none` is a `NumberFormatException`, before which nothing happens. -/
def onKeyUp (digit : Char → Option ℕ) (roomIdGetIP : ℤ → ℤ → Text) (keyCode : ℕ) (k : Keypad) :
    Option (Keypad × List KeypadEffect × Bool) :=
  if keyCode = 136 then
    (readKeyEntry digit k.mEditText).map fun
      | .incomplete => (k, [.toast "输入完整的房间号"], false)
      | .zeros => ({ k with mEditText := [] }, [.toast "输入房间号错误"], false)
      | .short => (k, [.toast "输入房间号有误"], false)
      | .room floor room =>
        let dest_ip := roomIdGetIP floor room
        let k' : Keypad := ⟨setText dest_ip, some dest_ip, some dest_ip⟩
        (k', .toast ("dest_ip:" ++ String.ofList dest_ip) :: k'.callVideo, true)
  else some (k, [], true)

end Keypad

/-! ### Addresses -/

/-- An address as `roomIdGetIP` prints it: four bytes in decimal. -/
def dotted (a b c d : Byte) : Text :=
  Nat.toDigits 10 a.toNat ++ '.' :: Nat.toDigits 10 b.toNat ++ '.' :: Nat.toDigits 10 c.toNat ++
    '.' :: Nat.toDigits 10 d.toNat

/-- A text is an IPv4 address. -/
def IsIPv4 (text : Text) : Prop := ∃ a b c d, text = dotted a b c d

/-- An address has at least seven characters. -/
theorem IsIPv4.length_le {text : Text} (h : IsIPv4 text) : 7 ≤ text.length := by
  obtain ⟨a, b, c, d, rfl⟩ := h
  have hpos : ∀ o : Byte, 0 < (Nat.toDigits 10 o.toNat).length := fun o ↦ Nat.length_toDigits_pos
  have ha := hpos a
  have hb := hpos b
  have hc := hpos c
  have hd := hpos d
  simp only [dotted, List.length_append, List.length_cons]
  omega

/-! ### The call -/

section EnterKey

variable {digit : Char → Option ℕ} {roomIdGetIP : ℤ → ℤ → Text} {k : Keypad} {floor room : ℤ}

/-- **The enter key with a room number** connects if and only if the address has one to four
characters. -/
theorem onKeyUp_eq (hentry : readKeyEntry digit k.mEditText = some (.room floor room)) :
    k.onKeyUp digit roomIdGetIP 136 =
      some (⟨if (roomIdGetIP floor room).length ≤ 4 then roomIdGetIP floor room else [],
          some (roomIdGetIP floor room), some (roomIdGetIP floor room)⟩,
        [.toast ("dest_ip:" ++ String.ofList (roomIdGetIP floor room)),
          if 0 < (roomIdGetIP floor room).length ∧ (roomIdGetIP floor room).length ≤ 4
          then .connect (some (roomIdGetIP floor room)) 9000
          else .toast "please input roomId"],
        true) := by
  rw [Keypad.onKeyUp, if_pos rfl, hentry, Option.map_some]
  simp only [Keypad.callVideo, setText_eq]
  by_cases hlen : (roomIdGetIP floor room).length ≤ 4
  · by_cases hnil : roomIdGetIP floor room = []
    · simp [hnil]
    · simp [hlen, hnil, List.length_pos_iff]
  · simp [hlen]

/-- `btn_start` with a text in the field, after the enter key has found an address, is
`Activity.callVideo` with this address. -/
theorem callVideo_onKeyUp {k' : Keypad} {effects : List KeypadEffect} {passed : Bool}
    (hentry : readKeyEntry digit k.mEditText = some (.room floor room))
    (hkey : k.onKeyUp digit roomIdGetIP 136 = some (k', effects, passed)) {typed : Text}
    (htyped : setText typed ≠ []) (a : Activity Text) :
    { k' with mEditText := setText typed }.callVideo =
        [.connect (a.callVideo (some (roomIdGetIP floor room))).1.address 9000] ∧
      (a.callVideo (some (roomIdGetIP floor room))).2 =
        [.clientConnect (a.callVideo (some (roomIdGetIP floor room))).1.address] := by
  rw [onKeyUp_eq hentry, Option.some_inj, Prod.mk.injEq] at hkey
  obtain ⟨rfl, -⟩ := hkey
  exact ⟨if_neg htyped, rfl⟩

/-- The handler ends with a connection to an address. -/
def EndsWithConnect (outcome : Option (Keypad × List KeypadEffect × Bool)) (dest : Text) : Prop :=
  ∃ k effects passed, outcome = some (k, effects, passed) ∧
    effects.getLast? = some (.connect (some dest) 9000)

/-- A longer address is cleared from the field before `callVideo` looks at it. -/
theorem not_endsWithConnect_of_lt_length
    (hentry : readKeyEntry digit k.mEditText = some (.room floor room))
    (hlen : 4 < (roomIdGetIP floor room).length) :
    ¬ EndsWithConnect (k.onKeyUp digit roomIdGetIP 136) (roomIdGetIP floor room) := by
  rintro ⟨k', effects, passed, hkey, hlast⟩
  rw [onKeyUp_eq hentry, Option.some_inj, Prod.mk.injEq, Prod.mk.injEq] at hkey
  obtain ⟨-, rfl, -⟩ := hkey
  rw [if_neg fun h ↦ Nat.not_le.2 hlen h.2] at hlast
  simp at hlast

end EnterKey

/-- **The enter key never calls.** Whatever room number is accepted and whatever IPv4 address it
has, the handler does not end with a connection to it. -/
theorem not_endsWithConnect (digit : Char → Option ℕ) (roomIdGetIP : ℤ → ℤ → Text) (k : Keypad)
    (floor room : ℤ) (hentry : readKeyEntry digit k.mEditText = some (.room floor room))
    (haddress : IsIPv4 (roomIdGetIP floor room)) :
    ¬ EndsWithConnect (k.onKeyUp digit roomIdGetIP 136) (roomIdGetIP floor room) := by
  have hlen := haddress.length_le
  exact not_endsWithConnect_of_lt_length hentry (by omega)

/-- `Character.digit` on ASCII characters. -/
def asciiDigit (c : Char) : Option ℕ := if c.isDigit then some (c.toNat - '0'.toNat) else none

theorem not_endsWithConnect_floor_three : ¬ EndsWithConnect
    (Keypad.onKeyUp asciiDigit (fun _ _ ↦ dotted 192 168 1 10) 136
      ⟨['0', '3', '0', '4'], none, none⟩)
    (dotted 192 168 1 10) :=
  not_endsWithConnect asciiDigit (fun _ _ ↦ dotted 192 168 1 10) ⟨['0', '3', '0', '4'], none, none⟩
    3 4 (by decide) ⟨192, 168, 1, 10, rfl⟩

/-- **Room 4 on floor 3**: its number is accepted, its address is written into the field and
cleared, and the handler asks for a room number. -/
theorem not_forall_endsWithConnect : ¬ ∀ (digit : Char → Option ℕ) (roomIdGetIP : ℤ → ℤ → Text)
    (k : Keypad) (floor room : ℤ), k.mEditText.length = 3 ∨ k.mEditText.length = 4 →
    readKeyEntry digit k.mEditText = some (.room floor room) → IsIPv4 (roomIdGetIP floor room) →
    EndsWithConnect (k.onKeyUp digit roomIdGetIP 136) (roomIdGetIP floor room) := by
  intro h
  have hentry : readKeyEntry asciiDigit ['3', '0', '4'] = some (.room 3 4) := by decide
  exact not_endsWithConnect_of_lt_length hentry (by decide) (h asciiDigit
    (fun _ _ ↦ dotted 192 168 1 10) ⟨['3', '0', '4'], none, none⟩ 3 4 (by decide) hentry
    ⟨192, 168, 1, 10, rfl⟩)

end DoorIntercom
