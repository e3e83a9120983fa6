import DoorIntercom.Area.MachineCode
import DoorIntercom.Call.Commands
import DoorIntercom.Lib.JavaArray
import DoorIntercom.Lib.SelfDelimiting

/-!
# The packets of the video stream

`onPreviewFrame` sends every payload in a packet: two bytes `FF 00`, the length of the payload as
four bytes (`intToByteArray`), and the payload. The packet is built by three copies into a new
array, whose size must be an `int` (`buildPacket_isOk_iff`).

The packets are a self-delimiting code (`videoPackets`): nothing is searched for in the stream, so a
payload may contain the head of a packet.
-/

namespace DoorIntercom

open JavaArray FallibleRun

/-! ### The code -/

/-- `TypeConUtil.intToByteArray`; a cast to `byte` takes the low eight bits. -/
def intToByteArray (i : Word) : List Byte :=
  [((i.sshiftRight 24) &&& 0xff#32).setWidth 8, ((i.sshiftRight 16) &&& 0xff#32).setWidth 8,
    ((i.sshiftRight 8) &&& 0xff#32).setWidth 8, (i &&& 0xff#32).setWidth 8]

/-- The packet `testdata` for `outData`. -/
def buildPacket (outData : List Byte) : Except Thrown (List Byte) := do
  let length := intToByteArray (BitVec.ofNat 32 outData.length)
  let testdata ← new 0 (int (length.length + outData.length + 2 : ℕ))
  let head := [0xff#8, 0x00#8]
  let testdata ← arraycopy head 0 testdata 0 2
  let testdata ← arraycopy length 0 testdata 2 length.length
  arraycopy outData 0 testdata (length.length + 2) outData.length

/-! ### The packet -/

/-- The three parts of a packet. -/
def packet (payload : List Byte) : List Byte :=
  [0xff#8, 0x00#8] ++ intToByteArray (BitVec.ofNat 32 payload.length) ++ payload

@[simp] theorem length_intToByteArray (i : Word) : (intToByteArray i).length = 4 := rfl

theorem drop_packet (payload : List Byte) : (packet payload).drop 6 = payload := rfl

/-- **The three copies** fill an array of the right size. -/
theorem copies_eq {length payload zeros : List Byte} (hlength : length.length = 4)
    (hzeros : zeros.length = payload.length + 6) :
    (do
      let testdata ← arraycopy [0xff#8, 0x00#8] 0 zeros 0 2
      let testdata ← arraycopy length 0 testdata 2 length.length
      arraycopy payload 0 testdata (length.length + 2) payload.length) =
        .ok ([0xff#8, 0x00#8] ++ length ++ payload) := by
  have hhead := arraycopy_append [0xff#8, 0x00#8] [] (show 2 ≤ zeros.length by omega)
  have hdrop : (zeros.drop 2).length = payload.length + 4 := by
    rw [List.length_drop]
    omega
  have hmiddle := arraycopy_append length [0xff#8, 0x00#8]
    (show length.length ≤ (zeros.drop 2).length by omega)
  have hrest : ((zeros.drop 2).drop length.length).length = payload.length := by
    rw [List.length_drop]
    omega
  have hlast := arraycopy_append payload ([0xff#8, 0x00#8] ++ length) hrest.ge
  rw [List.drop_eq_nil_of_le hrest.le, List.append_nil, List.length_append, Nat.add_comm] at hlast
  exact bind_eq_ok.2 ⟨_, hhead, bind_eq_ok.2 ⟨_, hmiddle, hlast⟩⟩

theorem buildPacket_eq {payload : List Byte} (h : payload.length + 6 < 2 ^ 31) :
    buildPacket payload = .ok (packet payload) := by
  have hnew : new (0 : Byte) (int (4 + payload.length + 2 : ℕ)) =
      .ok (List.replicate (4 + payload.length + 2) 0) := by
    rw [int_of_lt (by omega), new_natCast]
  have hsize : (List.replicate (4 + payload.length + 2) (0 : Byte)).length =
      payload.length + 6 := by
    rw [List.length_replicate]
    omega
  exact bind_eq_ok.2 ⟨_, hnew, copies_eq (length_intToByteArray _) hsize⟩

/-- A packet is built if its size is an `int`. -/
theorem buildPacket_isOk_iff {payload : List Byte} :
    (∃ p, buildPacket payload = .ok p) ↔ payload.length + 6 < 2 ^ 31 := by
  refine ⟨?_, fun h ↦ ⟨_, buildPacket_eq h⟩⟩
  rintro ⟨p, hp⟩
  rw [buildPacket] at hp
  obtain ⟨zeros, hzeros, hp⟩ := bind_eq_ok.1 hp
  obtain ⟨withHead, hhead, hp⟩ := bind_eq_ok.1 hp
  obtain ⟨withLength, hlength, hp⟩ := bind_eq_ok.1 hp
  have hle := (arraycopy_eq_ok hp).2
  have hlt := int_lt (4 + payload.length + 2 : ℕ)
  have hsize := length_of_new hzeros
  rw [length_arraycopy hlength, length_arraycopy hhead] at hle
  simp only [length_intToByteArray] at hle hsize
  omega

/-! ### The receiver -/

/-- The number that four bytes are, the first one the highest. -/
def readInt (bytes : List Byte) : ℕ := bytes.foldl (fun n b ↦ 256 * n + b.toNat) 0

/-- A byte of a number, shifted down and cut off. -/
theorem toNat_byte (i : Word) (h : i.msb = false) (k : ℕ) :
    (((i.sshiftRight k) &&& 0xff#32).setWidth 8).toNat = i.toNat / 2 ^ k % 256 := by
  rw [BitVec.sshiftRight_eq_of_msb_false h, BitVec.toNat_setWidth, BitVec.toNat_and,
    BitVec.toNat_ushiftRight, Nat.shiftRight_eq_div_pow]
  show (i.toNat / 2 ^ k &&& (2 ^ 8 - 1)) % 2 ^ 8 = _
  rw [Nat.and_two_pow_sub_one_eq_mod]
  omega

/-- Four bytes of a number make it up. -/
theorem foldl_bytes {n : ℕ} (h : n < 2 ^ 32) :
    256 * (256 * (256 * (256 * 0 + n / 2 ^ 24 % 256) + n / 2 ^ 16 % 256) + n / 2 ^ 8 % 256) +
      n / 2 ^ 0 % 256 = n := by
  omega

/-- **The length is read back.** -/
theorem readInt_intToByteArray {n : ℕ} (h : n < 2 ^ 31) :
    readInt (intToByteArray (BitVec.ofNat 32 n)) = n := by
  have hnat : (BitVec.ofNat 32 n).toNat = n := by
    rw [BitVec.toNat_ofNat]
    omega
  have hmsb : (BitVec.ofNat 32 n).msb = false := by
    rw [BitVec.msb_eq_false_iff_two_mul_lt, hnat]
    omega
  have hzero := toNat_byte _ hmsb 0
  rw [BitVec.sshiftRight_zero] at hzero
  rw [readInt, intToByteArray, List.foldl_cons, List.foldl_cons, List.foldl_cons, List.foldl_cons,
    List.foldl_nil, toNat_byte _ hmsb, toNat_byte _ hmsb, toNat_byte _ hmsb, hzero, hnat]
  exact foldl_bytes (by omega)

/-- A payload that a packet can hold. -/
abbrev Payload := { payload : List Byte // payload.length + 6 < 2 ^ 31 }

/-- The receiver: the head, the length, and so many bytes. -/
def receivePacket : List Byte → Option (Payload × List Byte)
  | _ :: _ :: l₀ :: l₁ :: l₂ :: l₃ :: rest =>
    let n := readInt [l₀, l₁, l₂, l₃]
    if h : n + 6 < 2 ^ 31 ∧ n ≤ rest.length then
      some (⟨rest.take n, by rw [List.length_take]; omega⟩, rest.drop n)
    else none
  | _ => none

/-- **A packet delimits itself.** -/
theorem receivePacket_append (payload : Payload) (rest : List Byte) :
    receivePacket (packet payload.1 ++ rest) = some (payload, rest) := by
  have hread := readInt_intToByteArray (show payload.1.length < 2 ^ 31 by omega)
  have hlen : payload.1.length + 6 < 2 ^ 31 ∧ payload.1.length ≤ (payload.1 ++ rest).length := by
    rw [List.length_append]
    exact ⟨payload.2, by omega⟩
  show (if h : readInt (intToByteArray (BitVec.ofNat 32 payload.1.length)) + 6 < 2 ^ 31 ∧
      readInt (intToByteArray (BitVec.ofNat 32 payload.1.length)) ≤ (payload.1 ++ rest).length then
    some ((⟨(payload.1 ++ rest).take (readInt (intToByteArray _)), _⟩ : Payload),
      (payload.1 ++ rest).drop (readInt (intToByteArray _))) else none) = _
  simp only [hread, dif_pos hlen, List.take_left, List.drop_left]

/-- The packets as a code. -/
def videoPackets : SelfDelimiting Payload Byte where
  encode payload := packet payload.1
  decode := receivePacket
  decode_nil := rfl
  decode_encode_append := receivePacket_append

/-- All payloads of a stream. -/
def receive (bytes : List Byte) : List (List Byte) := (videoPackets.decodeAll bytes).map Subtype.val

/-- The packets that are built. -/
theorem mapM_buildPacket_eq_ok {payloads packets : List (List Byte)}
    (h : payloads.mapM buildPacket = .ok packets) :
    ∃ ps : List Payload, payloads = ps.map Subtype.val ∧
      packets.flatten = ps.flatMap videoPackets.encode := by
  induction payloads generalizing packets with
  | nil =>
    rw [List.mapM_nil] at h
    exact ⟨[], rfl, by rw [← Except.ok.inj h]; rfl⟩
  | cons payload payloads ih =>
    rw [List.mapM_cons] at h
    obtain ⟨first, hfirst, h⟩ := bind_eq_ok.1 h
    obtain ⟨rest, hrest, h⟩ := bind_eq_ok.1 h
    obtain ⟨ps, hps, hflatten⟩ := ih hrest
    have hsize := buildPacket_isOk_iff.1 ⟨first, hfirst⟩
    obtain rfl := Except.ok.inj (hfirst.symm.trans (buildPacket_eq hsize))
    refine ⟨⟨payload, hsize⟩ :: ps, by rw [List.map_cons, hps], ?_⟩
    rw [← Except.ok.inj h, List.flatten_cons, hflatten, List.flatMap_cons]
    rfl

/-- **The stream is uniquely decodable.** The receiver recovers the payloads, and no other payloads
have the same stream. -/
theorem receive_packets (payloads packets : List (List Byte))
    (h : payloads.mapM buildPacket = .ok packets) :
    receive packets.flatten = payloads ∧
      ∀ payloads' packets', payloads'.mapM buildPacket = .ok packets' →
        packets.flatten = packets'.flatten → payloads = payloads' := by
  obtain ⟨ps, rfl, hflatten⟩ := mapM_buildPacket_eq_ok h
  refine ⟨?_, ?_⟩
  · rw [receive, hflatten, videoPackets.decodeAll_flatMap_encode]
  · intro payloads' packets' h' heq
    obtain ⟨ps', rfl, hflatten'⟩ := mapM_buildPacket_eq_ok h'
    rw [hflatten, hflatten'] at heq
    rw [videoPackets.flatMap_encode_injective heq]

/-- Two payloads, one of which contains the head of a packet. -/
theorem receive_two_packets :
    receive [0xff#8, 0x00#8, 0x00#8, 0x00#8, 0x00#8, 0x02#8, 0xff#8, 0x00#8,
      0xff#8, 0x00#8, 0x00#8, 0x00#8, 0x00#8, 0x01#8, 0x07#8] =
        [[0xff#8, 0x00#8], [0x07#8]] :=
  (receive_packets [[0xff#8, 0x00#8], [0x07#8]] [[0xff#8, 0x00#8, 0x00#8, 0x00#8, 0x00#8, 0x02#8,
    0xff#8, 0x00#8], [0xff#8, 0x00#8, 0x00#8, 0x00#8, 0x00#8, 0x01#8, 0x07#8]] rfl).1

end DoorIntercom
