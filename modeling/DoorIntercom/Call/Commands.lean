import Mathlib.Data.List.Basic

/-!
# Call commands

The 4-byte commands of `Constants.java`, and what the two `onDataReceive` of `MainActivity` look at
in the bytes of one `read`. The server's listener is given the whole 1024-byte buffer of the receive
thread, zeros after the bytes received; the client's copies the bytes received first, so that an
index past them throws. Both look at fixed positions only: one read is one command to them, and what
stands behind it is not looked at.
-/

namespace DoorIntercom

abbrev Byte := BitVec 8

/-- The commands of `Constants.java`. -/
inductive Command
  | requestVideo
  | acceptVideo
  | refuseVideo
  | handUpVideo
  | ending
  deriving DecidableEq, Repr

/-- The bytes of a command. -/
def Command.bytes : Command → List Byte
  | requestVideo => [0xee#8, 0x01#8, 0x00#8, 0x00#8]
  | acceptVideo => [0xee#8, 0x03#8, 0x00#8, 0x00#8]
  | refuseVideo => [0xee#8, 0x07#8, 0x00#8, 0x00#8]
  | handUpVideo => [0xee#8, 0x02#8, 0x00#8, 0x00#8]
  | ending => [0xee#8, 0x00#8, 0xee#8, 0x00#8]

@[simp] theorem Command.length_bytes (c : Command) : c.bytes.length = 4 := by
  cases c <;> rfl

/-- The byte stream of a sequence of commands. -/
def stream (commands : List Command) : List Byte := commands.flatMap Command.bytes

/-- The two ends of a connection. -/
inductive Side
  | server
  | client
  deriving DecidableEq, Repr

/-- The listener's handling of one read: the branches taken, whether one of them disconnects, and
the indexes read. -/
structure Dispatch where
  acted : List Command
  disconnect : Bool
  indexes : List ℕ

/-- The 1024-byte buffer after a read. -/
def readBuffer (read : List Byte) (i : ℕ) : Byte := read.getD i 0x00#8

/-- `onDataReceive` of the server's listener; the second comparison of the last test is only made if
the first one holds. -/
def serverDispatch (buffer : ℕ → Byte) : Dispatch where
  acted :=
    (if buffer 1 = 0x01#8 then [.requestVideo] else []) ++
      (if buffer 1 = 0x02#8 then [.handUpVideo] else []) ++
      (if buffer 1 = 0x07#8 ∧ buffer 2 = 0x03#8 then [.refuseVideo] else [])
  disconnect := buffer 1 = 0x07#8 ∧ buffer 2 = 0x03#8
  indexes := if buffer 1 = 0x07#8 then [1, 2] else [1]

/-- `onDataReceive` of the client's listener. Without a second byte, `data[1]` throws. -/
def clientDispatch (buffer : ℕ → Byte) (size : ℕ) : Dispatch where
  acted :=
    if size ≤ 1 then []
    else
      (if buffer 1 = 0x03#8 then [.acceptVideo] else []) ++
        (if buffer 1 = 0x02#8 then [.handUpVideo] else []) ++
        (if buffer 1 = 0x07#8 then [.refuseVideo] else [])
  disconnect := 1 < size ∧ (buffer 1 = 0x02#8 ∨ buffer 1 = 0x07#8)
  indexes := [1]

/-- The handling of one read. -/
def dispatch : Side → List Byte → Dispatch
  | .server, read => serverDispatch (readBuffer read)
  | .client, read => clientDispatch (readBuffer read) read.length

/-- An index outside the bytes received is read. -/
def Dispatch.outside (d : Dispatch) (size : ℕ) : Bool := d.indexes.any (size ≤ ·)

/-! ### One command, one read -/

/-- The commands that a side acts on. -/
def Side.acts : Side → Command → Bool
  | .server, c => c = .requestVideo || c = .handUpVideo
  | .client, c => c = .acceptVideo || c = .handUpVideo || c = .refuseVideo

/-- The branches that disconnect. -/
def Side.disconnects : Side → Command → Bool
  | .server, c => c = .refuseVideo
  | .client, c => c = .handUpVideo || c = .refuseVideo

/-- The command that a side sees in the second byte of a read. -/
def Side.react : Side → Byte → Option Command
  | .server, b =>
    if b = 0x01#8 then some .requestVideo else if b = 0x02#8 then some .handUpVideo else none
  | .client, b =>
    if b = 0x03#8 then some .acceptVideo
    else if b = 0x02#8 then some .handUpVideo
    else if b = 0x07#8 then some .refuseVideo
    else none

/-- **A command in a read of its own** is acted on, if the side acts on such commands. -/
theorem acted_bytes (side : Side) (c : Command) :
    (dispatch side c.bytes).acted = if side.acts c then [c] else [] := by
  cases side <;> cases c <;> decide

/-- A side disconnects in the branches that do. -/
theorem disconnect_eq (side : Side) (read : List Byte) :
    (dispatch side read).disconnect = (dispatch side read).acted.any side.disconnects := by
  cases side with
  | server =>
    simp only [dispatch, serverDispatch]
    by_cases h1 : readBuffer read 1 = 0x01#8
    · simp [h1, Side.disconnects]
    · by_cases h2 : readBuffer read 1 = 0x02#8
      · simp [h2, Side.disconnects]
      · by_cases h3 : readBuffer read 1 = 0x07#8 ∧ readBuffer read 2 = 0x03#8 <;>
          simp [h1, h2, h3, Side.disconnects]
  | client =>
    simp only [dispatch, clientDispatch]
    by_cases hsize : read.length ≤ 1
    · simp [hsize, Nat.not_lt.2 hsize]
    · by_cases h1 : readBuffer read 1 = 0x03#8
      · simp [hsize, h1, Side.disconnects]
      · by_cases h2 : readBuffer read 1 = 0x02#8
        · simp [hsize, Nat.not_le.1 hsize, h2, Side.disconnects]
        · by_cases h3 : readBuffer read 1 = 0x07#8 <;>
            simp [hsize, Nat.not_le.1 hsize, h1, h2, h3, Side.disconnects]

/-- **A read with a second byte** is acted on by that byte, as long as it is no refusal followed by
`0x03`, which no command is. -/
theorem acted_eq {side : Side} {read : List Byte} (hsize : 2 ≤ read.length)
    (hno : side = .server → ¬ (readBuffer read 1 = 0x07#8 ∧ readBuffer read 2 = 0x03#8)) :
    (dispatch side read).acted = ((read[1]?).bind side.react).toList := by
  have hone : read[1]? = some (readBuffer read 1) := by
    rw [readBuffer, List.getD_eq_getElem?_getD, List.getElem?_eq_getElem hsize, Option.getD_some]
  rw [hone, Option.bind_some]
  cases side with
  | server =>
    simp only [dispatch, serverDispatch, Side.react, if_neg (hno rfl)]
    by_cases h1 : readBuffer read 1 = 0x01#8
    · simp [h1]
    · by_cases h2 : readBuffer read 1 = 0x02#8 <;> simp [h1, h2]
  | client =>
    have hsize' : ¬ read.length ≤ 1 := by omega
    simp only [dispatch, clientDispatch, Side.react, if_neg hsize']
    by_cases h1 : readBuffer read 1 = 0x03#8
    · simp [h1]
    · by_cases h2 : readBuffer read 1 = 0x02#8
      · simp [h2]
      · by_cases h3 : readBuffer read 1 = 0x07#8 <;> simp [h1, h2, h3]

/-! ### The stream of a sequence of commands -/

section Stream

variable {commands : List Command}

@[simp] theorem stream_nil : stream [] = [] := rfl

@[simp] theorem stream_cons (c : Command) (commands : List Command) :
    stream (c :: commands) = c.bytes ++ stream commands := rfl

theorem length_stream : (stream commands).length = 4 * commands.length := by
  induction commands with
  | nil => rfl
  | cons c commands ih =>
    rw [stream_cons, List.length_append, Command.length_bytes, ih, List.length_cons]
    omega

/-- The bytes of the `k`-th command. -/
theorem getElem?_stream (k : ℕ) {j : ℕ} (hj : j < 4) :
    (stream commands)[4 * k + j]? = (commands[k]?).bind fun c ↦ c.bytes[j]? := by
  induction commands generalizing k with
  | nil => simp
  | cons c commands ih =>
    rw [stream_cons]
    cases k with
    | zero =>
      rw [List.getElem?_append_left (by simp; omega)]
      simp
    | succ k =>
      rw [List.getElem?_append_right (by simp; omega), Command.length_bytes,
        show 4 * (k + 1) + j - 4 = 4 * k + j by omega, ih]
      simp

/-- The command that a side sees at a position: the one that starts there. -/
theorem react_stream (side : Side) (i : ℕ) :
    ((stream commands)[i + 1]?).bind side.react =
      if i % 4 = 0 then (commands[i / 4]?).bind fun c ↦ if side.acts c then some c else none
      else none := by
  have hone : ∀ c : Command, (c.bytes[1]?).bind side.react =
      if side.acts c then some c else none := by
    intro c
    cases side <;> cases c <;> decide
  have hzero : ∀ c : Command, (c.bytes[0]?).bind side.react = none := by
    intro c
    cases side <;> cases c <;> decide
  have htwo : ∀ c : Command, (c.bytes[2]?).bind side.react = none := by
    intro c
    cases side <;> cases c <;> decide
  have hthree : ∀ c : Command, (c.bytes[3]?).bind side.react = none := by
    intro c
    cases side <;> cases c <;> decide
  have hbind : ∀ {k j : ℕ}, j < 4 → ((stream commands)[4 * k + j]?).bind side.react =
      (commands[k]?).bind fun c ↦ (c.bytes[j]?).bind side.react := by
    intro k j hj
    rw [getElem?_stream k hj, Option.bind_assoc]
  rcases show i % 4 = 0 ∨ i % 4 = 1 ∨ i % 4 = 2 ∨ i % 4 = 3 by omega with h | h | h | h
  · rw [if_pos h, show i + 1 = 4 * (i / 4) + 1 by omega, hbind (by omega)]
    simp only [hone]
  · rw [if_neg (by omega), show i + 1 = 4 * (i / 4) + 2 by omega, hbind (by omega)]
    simp only [htwo, Option.bind_fun_none]
  · rw [if_neg (by omega), show i + 1 = 4 * (i / 4) + 3 by omega, hbind (by omega)]
    simp only [hthree, Option.bind_fun_none]
  · rw [if_neg (by omega), show i + 1 = 4 * (i / 4 + 1) + 0 by omega, hbind (by omega)]
    simp only [hzero, Option.bind_fun_none]

/-- No command has `0x03` after `0x07`. -/
theorem getElem?_stream_ne {i : ℕ} (h : (stream commands)[i]? = some 0x07#8) :
    (stream commands)[i + 1]? ≠ some 0x03#8 := by
  have hbytes : ∀ c : Command, (c.bytes[0]? ≠ some 0x07#8 ∧ c.bytes[2]? ≠ some 0x07#8) ∧
      c.bytes[3]? ≠ some 0x07#8 ∧ c.bytes[2]? ≠ some 0x03#8 := by
    intro c
    cases c <;> decide
  have hget : ∀ {k j : ℕ} {b : Byte}, j < 4 → (stream commands)[4 * k + j]? = some b →
      ∃ c : Command, c.bytes[j]? = some b := by
    intro k j b hj hb
    rw [getElem?_stream k hj] at hb
    obtain ⟨c, -, hc⟩ := Option.bind_eq_some_iff.1 hb
    exact ⟨c, hc⟩
  rcases show i % 4 = 0 ∨ i % 4 = 1 ∨ i % 4 = 2 ∨ i % 4 = 3 by omega with hm | hm | hm | hm
  · rw [show i = 4 * (i / 4) + 0 by omega] at h
    obtain ⟨c, hc⟩ := hget (by omega) h
    exact absurd hc (hbytes c).1.1
  · intro h'
    rw [show i + 1 = 4 * (i / 4) + 2 by omega] at h'
    obtain ⟨c, hc⟩ := hget (by omega) h'
    exact (hbytes c).2.2 hc
  · rw [show i = 4 * (i / 4) + 2 by omega] at h
    obtain ⟨c, hc⟩ := hget (by omega) h
    exact absurd hc (hbytes c).1.2
  · rw [show i = 4 * (i / 4) + 3 by omega] at h
    obtain ⟨c, hc⟩ := hget (by omega) h
    exact absurd hc (hbytes c).2.1

end Stream

end DoorIntercom
