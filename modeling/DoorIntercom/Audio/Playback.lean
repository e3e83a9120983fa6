import Mathlib.Data.List.GetD
import Mathlib.Data.List.OfFn
import DoorIntercom.Call.Commands

/-!
# Playback of received audio

The two receive loops hand an array of 320 bytes to `AudioTrackManager.startPlay` for whatever they
receive, and all of it is played: `SocketThread.run` of `TcpPcm` a fresh one for every read, zeros
after the bytes read; `receiveMessage` of `PcmUdpUtil` the array of its only packet, which behind a
short datagram still holds what was there before.

So what is played is a multiple of 320 bytes long (`length_playedBytes`), and equal to what was
received only if every read and every datagram has 320 bytes. If no callback is set,
`receiveMessage` ends with a `NullPointerException` after the first array.
-/

namespace DoorIntercom

namespace Playback

/-- `BUFFER_LENGTH`, and the length of the arrays of `TcpPcm`. -/
abbrev BUFFER_LENGTH : ℕ := 320

/-- An array of the receive loops. -/
abbrev Buffer := Fin BUFFER_LENGTH → Byte

/-- A new array. -/
def Buffer.zeros : Buffer := fun _ ↦ 0

/-- An array after bytes have been written to its start. -/
def Buffer.fill (buffer : Buffer) (bytes : List Byte) : Buffer := fun i ↦ bytes.getD i (buffer i)

/-- The bytes that `startPlay` writes to the audio track. -/
def Buffer.bytes (buffer : Buffer) : List Byte := List.ofFn buffer

@[simp] theorem Buffer.length_bytes (buffer : Buffer) : buffer.bytes.length = 320 :=
  List.length_ofFn

/-- Behind the bytes written the array is as before. -/
theorem Buffer.bytes_fill {buffer : Buffer} {bytes : List Byte} (h : bytes.length ≤ 320) :
    (buffer.fill bytes).bytes = bytes ++ buffer.bytes.drop bytes.length := by
  apply List.ext_getElem
  · simp [h]
  · intro i hi hi'
    simp only [Buffer.bytes, List.getElem_ofFn, Buffer.fill]
    by_cases hlt : i < bytes.length
    · rw [List.getElem_append_left hlt, List.getD_eq_getElem _ _ hlt]
    · rw [List.getElem_append_right (Nat.not_lt.1 hlt), List.getD_eq_default _ _ (Nat.not_lt.1 hlt),
        List.getElem_drop, List.getElem_ofFn]
      congr
      omega

theorem Buffer.bytes_fill_of_length_eq {buffer : Buffer} {bytes : List Byte}
    (h : bytes.length = 320) : (buffer.fill bytes).bytes = bytes := by
  rw [Buffer.bytes_fill h.le, h, List.drop_eq_nil_of_le buffer.length_bytes.le, List.append_nil]

/-! ### The loops -/

/-- The loop of `SocketThread.run`: the arrays that are played. A read is the bytes it delivers,
none at the end of the stream. -/
def run : List (List Byte) → List Buffer
  | [] => []
  | read :: reads => if 0 < read.length then Buffer.zeros.fill read :: run reads else run reads

/-- `receivePacket`. -/
structure Packet where
  data : Buffer
  length : ℕ

/-- The packet that `startUDPSocket` makes. -/
def Packet.new : Packet := ⟨Buffer.zeros, BUFFER_LENGTH⟩

/-- `receive`: a datagram longer than the packet's length is truncated. -/
def Packet.receive (packet : Packet) (datagram : List Byte) : Packet :=
  ⟨packet.data.fill (datagram.take packet.length), (datagram.take packet.length).length⟩

/-- The loop of `receiveMessage`: the arrays that are played. The callback is given the packet's own
array, and may leave other bytes in it. -/
def receiveMessage (udpReceiveCallback : Option (Buffer → Buffer)) :
    List (List Byte) → Packet → List Buffer
  | [], _ => []
  | datagram :: datagrams, packet =>
    let received := packet.receive datagram
    if received.length = 0 then receiveMessage udpReceiveCallback datagrams received
    else
      received.data :: match udpReceiveCallback with
        | none => []
        | some onParserComplete =>
          receiveMessage udpReceiveCallback datagrams
            ⟨onParserComplete received.data, BUFFER_LENGTH⟩

/-! ### What is played -/

/-- The bytes played, in order. -/
def playedBytes (played : List Buffer) : List Byte := played.flatMap Buffer.bytes

/-- The bytes played are those received. -/
def PlaysAsReceived (played : List Buffer) (received : List (List Byte)) : Prop :=
  playedBytes played = received.flatten

theorem length_playedBytes (played : List Buffer) :
    (playedBytes played).length = 320 * played.length := by
  induction played with
  | nil => rfl
  | cons buffer played ih =>
    rw [playedBytes, List.flatMap_cons, List.length_append, Buffer.length_bytes, ← playedBytes, ih,
      List.length_cons, Nat.mul_succ, Nat.add_comm]

/-- Pieces of at most `n` elements have together at most `n` for each. -/
theorem length_flatten_le {α : Type} {pieces : List (List α)} {n : ℕ}
    (hle : ∀ piece ∈ pieces, piece.length ≤ n) : pieces.flatten.length ≤ n * pieces.length := by
  induction pieces with
  | nil => simp
  | cons piece pieces ih =>
    rw [List.forall_mem_cons] at hle
    have hrest := ih hle.2
    have hpiece := hle.1
    rw [List.flatten_cons, List.length_append, List.length_cons, Nat.mul_succ]
    omega

/-- They have that many only if every piece has `n`. -/
theorem length_eq_of_length_flatten {α : Type} {pieces : List (List α)} {n : ℕ}
    (hle : ∀ piece ∈ pieces, piece.length ≤ n) (h : pieces.flatten.length = n * pieces.length) :
    ∀ piece ∈ pieces, piece.length = n := by
  induction pieces with
  | nil => simp
  | cons piece pieces ih =>
    rw [List.forall_mem_cons] at hle ⊢
    rw [List.flatten_cons, List.length_append, List.length_cons, Nat.mul_succ] at h
    have hrest := length_flatten_le hle.2
    have hpiece := hle.1
    exact ⟨by omega, ih hle.2 (by omega)⟩

/-- If an array is played for every reception, all of them must be full. -/
theorem PlaysAsReceived.length_eq {played : List Buffer} {received : List (List Byte)}
    (h : PlaysAsReceived played received) (hlen : played.length = received.length)
    (hle : ∀ r ∈ received, r.length ≤ 320) : ∀ r ∈ received, r.length = 320 := by
  apply length_eq_of_length_flatten hle
  rw [← h, length_playedBytes, hlen]

section Received

variable {received : List (List Byte)} (hsize : ∀ r ∈ received, 1 ≤ r.length ∧ r.length ≤ 320)
include hsize

/-- One array is played for every read. -/
theorem length_run : (run received).length = received.length := by
  induction received with
  | nil => rfl
  | cons read reads ih =>
    rw [List.forall_mem_cons] at hsize
    have hpos : 0 < read.length := hsize.1.1
    rw [run, if_pos hpos, List.length_cons, ih hsize.2, List.length_cons]

/-- Full reads are played as they are. -/
theorem playsAsReceived_run (hfull : ∀ r ∈ received, r.length = 320) :
    PlaysAsReceived (run received) received := by
  induction received with
  | nil => rfl
  | cons read reads ih =>
    rw [List.forall_mem_cons] at hsize hfull
    have hpos : 0 < read.length := hsize.1.1
    have hrest : playedBytes (run reads) = reads.flatten := ih hsize.2 hfull.2
    rw [PlaysAsReceived, run, if_pos hpos, playedBytes, List.flatMap_cons,
      Buffer.bytes_fill_of_length_eq hfull.1, ← playedBytes, hrest, List.flatten_cons]

/-- **Playback of TCP reads.** -/
theorem playsAsReceived_run_iff :
    PlaysAsReceived (run received) received ↔ ∀ r ∈ received, r.length = 320 :=
  ⟨fun h ↦ h.length_eq (length_run hsize) fun r hr ↦ (hsize r hr).2, playsAsReceived_run hsize⟩

end Received

/-! ### Datagrams -/

/-- **A datagram** of 1 to 320 bytes is played with what the array holds behind it; the next one is
received if there is a callback. -/
theorem receiveMessage_cons {callback : Option (Buffer → Buffer)} {data : Buffer}
    {datagram : List Byte} {datagrams : List (List Byte)}
    (hsize : 1 ≤ datagram.length ∧ datagram.length ≤ 320) :
    receiveMessage callback (datagram :: datagrams) ⟨data, BUFFER_LENGTH⟩ =
      data.fill datagram :: callback.elim [] fun onParserComplete ↦
        receiveMessage callback datagrams
          ⟨onParserComplete (data.fill datagram), BUFFER_LENGTH⟩ := by
  have htake : datagram.take BUFFER_LENGTH = datagram := List.take_of_length_le hsize.2
  have hne : datagram.length ≠ 0 := by omega
  rw [receiveMessage.eq_def]
  simp only [Packet.receive, htake, if_neg hne]
  cases callback <;> rfl

section Callback

variable {received : List (List Byte)} (hsize : ∀ r ∈ received, 1 ≤ r.length ∧ r.length ≤ 320)
  (onParserComplete : Buffer → Buffer) (data : Buffer)
include hsize

/-- One array is played for every datagram. -/
theorem length_receiveMessage :
    (receiveMessage (some onParserComplete) received ⟨data, BUFFER_LENGTH⟩).length =
      received.length := by
  induction received generalizing data with
  | nil => rfl
  | cons datagram datagrams ih =>
    rw [List.forall_mem_cons] at hsize
    rw [receiveMessage_cons hsize.1, List.length_cons, Option.elim_some, ih hsize.2,
      List.length_cons]

/-- Full datagrams are played as they are. -/
theorem playsAsReceived_receiveMessage (hfull : ∀ r ∈ received, r.length = 320) :
    PlaysAsReceived (receiveMessage (some onParserComplete) received ⟨data, BUFFER_LENGTH⟩)
      received := by
  induction received generalizing data with
  | nil => rfl
  | cons datagram datagrams ih =>
    rw [List.forall_mem_cons] at hsize hfull
    have hrest := ih hsize.2 (onParserComplete (data.fill datagram)) hfull.2
    rw [PlaysAsReceived, playedBytes] at hrest
    rw [PlaysAsReceived, receiveMessage_cons hsize.1, playedBytes, List.flatMap_cons,
      Buffer.bytes_fill_of_length_eq hfull.1, Option.elim_some, hrest, List.flatten_cons]

/-- **Playback of datagrams**, with a callback. -/
theorem playsAsReceived_receiveMessage_iff :
    PlaysAsReceived (receiveMessage (some onParserComplete) received ⟨data, BUFFER_LENGTH⟩)
        received ↔
      ∀ r ∈ received, r.length = 320 :=
  ⟨fun h ↦ h.length_eq (length_receiveMessage hsize onParserComplete data)
      fun r hr ↦ (hsize r hr).2,
    playsAsReceived_receiveMessage hsize onParserComplete data⟩

/-- Without a callback the only array played must hold all the datagrams. -/
theorem playsAsReceived_receiveMessage_none_iff :
    PlaysAsReceived (receiveMessage none received ⟨data, BUFFER_LENGTH⟩) received ↔
      ∀ datagram datagrams, received = datagram :: datagrams →
        datagrams.flatten = data.bytes.drop datagram.length := by
  cases received with
  | nil => simp [PlaysAsReceived, receiveMessage, playedBytes]
  | cons datagram datagrams =>
    rw [List.forall_mem_cons] at hsize
    rw [PlaysAsReceived, receiveMessage_cons hsize.1, Option.elim_none, playedBytes,
      List.flatMap_cons, List.flatMap_nil, List.append_nil, Buffer.bytes_fill hsize.1.2,
      List.flatten_cons, List.append_right_inj]
    constructor
    · intro h d ds heq
      obtain ⟨rfl, rfl⟩ := List.cons.inj heq
      exact h.symm
    · intro h
      exact (h datagram datagrams rfl).symm

end Callback

/-- The bytes of a new array. -/
theorem bytes_zeros : Buffer.zeros.bytes = List.replicate 320 0 := List.ofFn_const 320 0

/-- **What is received is played unaltered** if and only if everything received has 320 bytes; or,
for datagrams without a callback, if those after the first one are the zeros that the array holds
behind it. -/
theorem playsAsReceived_iff (udpReceiveCallback : Option (Buffer → Buffer))
    (received : List (List Byte)) (hsize : ∀ r ∈ received, 1 ≤ r.length ∧ r.length ≤ 320) :
    (PlaysAsReceived (run received) received ↔ ∀ r ∈ received, r.length = 320) ∧
      (PlaysAsReceived (receiveMessage udpReceiveCallback received Packet.new) received ↔
        match udpReceiveCallback with
        | some _ => ∀ r ∈ received, r.length = 320
        | none => ∀ datagram datagrams, received = datagram :: datagrams →
          datagrams.flatten = List.replicate (320 - datagram.length) 0) := by
  refine ⟨playsAsReceived_run_iff hsize, ?_⟩
  cases udpReceiveCallback with
  | some onParserComplete =>
    exact playsAsReceived_receiveMessage_iff hsize onParserComplete Buffer.zeros
  | none =>
    rw [Packet.new, playsAsReceived_receiveMessage_none_iff hsize, bytes_zeros]
    simp only [List.drop_replicate]

theorem playsAsReceived_full_read :
    PlaysAsReceived (run [List.replicate 320 0x05#8]) [List.replicate 320 0x05#8] := by
  have hfull : ∀ r ∈ [List.replicate 320 0x05#8], r.length = 320 := by
    intro r hr
    rw [List.mem_singleton.1 hr, List.length_replicate]
  have hsize : ∀ r ∈ [List.replicate 320 0x05#8], 1 ≤ r.length ∧ r.length ≤ 320 := by
    intro r hr
    have hr := hfull r hr
    omega
  exact (playsAsReceived_iff none _ hsize).1.2 hfull

/-- **One byte** is played as 320, by both loops. -/
theorem not_playsAsReceived_one_byte :
    ¬ PlaysAsReceived (run [[0x05#8]]) [[0x05#8]] ∧
      ¬ PlaysAsReceived (receiveMessage (some id) [[0x05#8]] Packet.new) [[0x05#8]] := by
  have hsize : ∀ r ∈ [[0x05#8]], 1 ≤ r.length ∧ r.length ≤ 320 := by simp
  rw [playsAsReceived_run_iff hsize, Packet.new, playsAsReceived_receiveMessage_iff hsize]
  simp

end Playback

end DoorIntercom
