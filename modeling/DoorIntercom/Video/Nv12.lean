import Mathlib.Algebra.Group.Nat.Even
import Mathlib.Tactic.Ring
import DoorIntercom.Call.Commands
import DoorIntercom.Lib.JavaArray

/-!
# Conversion of a frame to NV12

`NV21ToNV12` of `AvcEncoder.java` and `VideoH264Encoder.java`, the same code twice. It should copy
the luma and swap the two bytes of every chroma pair, but its pairs begin one byte too early: it
swaps the last byte of the luma with the first one of the chroma, and so on, and never assigns the
last byte (`ShiftedPairs`). So it does what it should only where the bytes that it moves are all the
same.
-/

namespace DoorIntercom

open JavaArray

/-! ### The code -/

/-- The values of `j` in the two chroma loops. -/
def chromaSteps (framesize : ℕ) : List ℕ := (List.range ((framesize / 2 + 1) / 2)).map (2 * ·)

/-- The body of the two methods: `nv12` after it. -/
def convertToNV12 (nv21 nv12 : Option (List Byte)) (width height : ℕ) :
    Except Thrown (Option (List Byte)) :=
  match nv21, nv12 with
  | some nv21, some nv12 => do
    let framesize := width * height
    let nv12 ← arraycopy nv21 0 nv12 0 framesize
    let nv12 ← assign nv21 ((List.range framesize).map fun i ↦ (i, i)) nv12
    let nv12 ← assign nv21
      ((chromaSteps framesize).map fun j ↦ (framesize + j - 1, j + framesize)) nv12
    let nv12 ← assign nv21
      ((chromaSteps framesize).map fun j ↦ (framesize + j, j + framesize - 1)) nv12
    return some nv12
  | _, nv12 => .ok nv12

/-- `NV21ToNV12` of `AvcEncoder`. -/
def AvcEncoder.NV21ToNV12 (nv21 nv12 : Option (List Byte)) (width height : ℕ) :
    Except Thrown (Option (List Byte)) :=
  convertToNV12 nv21 nv12 width height

/-- `NV21ToNV12` of `VideoH264Encoder`. -/
def VideoH264Encoder.NV21ToNV12 (nv21 nv12 : Option (List Byte)) (width height : ℕ) :
    Except Thrown (Option (List Byte)) :=
  convertToNV12 nv21 nv12 width height

/-! ### What it does -/

/-- What is left in `nv12`, for a luma of `n` bytes: the luma but for its last byte, and from there
on the bytes of `nv21` swapped in pairs, but for the last byte. -/
structure ShiftedPairs (n : ℕ) (nv21 nv12 out : List Byte) : Prop where
  length_eq : out.length = nv12.length
  luma : ∀ i, i + 1 < n → out[i]? = nv21[i]?
  first : ∀ k < n / 4, out[n - 1 + 2 * k]? = nv21[n + 2 * k]?
  second : ∀ k < n / 4, out[n + 2 * k]? = nv21[n - 1 + 2 * k]?
  last : 0 < n → out[n + n / 2 - 1]? = nv12[n + n / 2 - 1]?

section Code

variable {n w h : ℕ} {nv21 nv12 out : List Byte}

theorem mem_chromaSteps (hn : n % 4 = 0) {j : ℕ} : j ∈ chromaSteps n ↔ j % 2 = 0 ∧ j < n / 2 := by
  simp only [chromaSteps, List.mem_map, List.mem_range]
  constructor
  · rintro ⟨k, hk, rfl⟩
    omega
  · rintro ⟨heven, hlt⟩
    exact ⟨j / 2, by omega, by omega⟩

/-- The last assignment of the first chroma loop to a position. -/
theorem lastSource_first (hn : n % 4 = 0) (i : ℕ) :
    lastSource ((chromaSteps n).map fun j ↦ (n + j - 1, j + n)) i =
      if n ≤ i + 1 ∧ (i + 1 - n) % 2 = 0 ∧ i + 1 - n < n / 2 then some (i + 1) else none := by
  split_ifs with hi
  · have hmem : i + 1 - n ∈ chromaSteps n := (mem_chromaSteps hn).2 hi.2
    have hsource : i + 1 - n + n = i + 1 := by omega
    rw [← hsource]
    exact lastSource_map_eq_some hmem (by omega) fun j _ hdest ↦ by omega
  · apply lastSource_map_eq_none
    intro j hj hdest
    rw [mem_chromaSteps hn] at hj
    omega

/-- The last assignment of the second chroma loop to a position. -/
theorem lastSource_second (hn : n % 4 = 0) (i : ℕ) :
    lastSource ((chromaSteps n).map fun j ↦ (n + j, j + n - 1)) i =
      if n ≤ i ∧ (i - n) % 2 = 0 ∧ i - n < n / 2 then some (i - 1) else none := by
  split_ifs with hi
  · have hmem : i - n ∈ chromaSteps n := (mem_chromaSteps hn).2 hi.2
    have hsource : i - n + n - 1 = i - 1 := by omega
    rw [← hsource]
    exact lastSource_map_eq_some hmem (by omega) fun j _ hdest ↦ by omega
  · apply lastSource_map_eq_none
    intro j hj hdest
    rw [mem_chromaSteps hn] at hj
    omega

theorem lastSource_luma (i : ℕ) :
    lastSource ((List.range n).map fun i ↦ (i, i)) i = if i < n then some i else none := by
  split_ifs with hi
  · exact lastSource_map_eq_some (List.mem_range.2 hi) rfl fun j _ hdest ↦ hdest
  · apply lastSource_map_eq_none
    intro j hj hdest
    exact hi (hdest ▸ List.mem_range.1 hj)

/-- The code returns an array as long as `nv12`, in which every byte is the one that the last of its
loops to assign the position puts there. -/
theorem exists_convertToNV12 (hn : w * h % 4 = 0) (hnv21 : nv21.length = w * h + w * h / 2)
    (hnv12 : nv12.length = nv21.length) :
    ∃ out, convertToNV12 (some nv21) (some nv12) w h = .ok (some out) ∧
      out.length = nv12.length ∧ ∀ i, out[i]? =
        if w * h ≤ i ∧ (i - w * h) % 2 = 0 ∧ i - w * h < w * h / 2 then nv21[i - 1]?
        else if w * h ≤ i + 1 ∧ (i + 1 - w * h) % 2 = 0 ∧ i + 1 - w * h < w * h / 2 then
          nv21[i + 1]?
        else if i < w * h then nv21[i]? else nv12[i]? := by
  obtain ⟨copied, hcopied⟩ : ∃ copied, arraycopy nv21 0 nv12 0 (w * h) = .ok copied :=
    ⟨_, arraycopy_eq (by omega) (by omega)⟩
  have hlen := length_arraycopy hcopied
  obtain ⟨luma, hluma⟩ : ∃ luma,
      assign nv21 ((List.range (w * h)).map fun i ↦ (i, i)) copied = .ok luma := by
    refine exists_assign_map fun i hi ↦ ?_
    rw [List.mem_range] at hi
    exact ⟨by omega, by omega⟩
  have hlen' := length_assign hluma
  obtain ⟨first, hfirst⟩ : ∃ first,
      assign nv21 ((chromaSteps (w * h)).map fun j ↦ (w * h + j - 1, j + w * h)) luma =
        .ok first := by
    refine exists_assign_map fun j hj ↦ ?_
    rw [mem_chromaSteps hn] at hj
    exact ⟨by omega, by omega⟩
  have hlen'' := length_assign hfirst
  obtain ⟨out, hout⟩ : ∃ out,
      assign nv21 ((chromaSteps (w * h)).map fun j ↦ (w * h + j, j + w * h - 1)) first =
        .ok out := by
    refine exists_assign_map fun j hj ↦ ?_
    rw [mem_chromaSteps hn] at hj
    exact ⟨by omega, by omega⟩
  refine ⟨out, ?_, ?_, fun i ↦ ?_⟩
  · simp only [convertToNV12, hcopied, hluma, hfirst, hout, bind, Except.bind, pure, Except.pure]
  · rw [length_assign hout, hlen'', hlen', hlen]
  · rw [getElem?_assign hout, lastSource_second hn, getElem?_assign hfirst, lastSource_first hn,
      getElem?_assign hluma, lastSource_luma, getElem?_arraycopy hcopied]
    split_ifs <;> first | rfl | omega

/-- **What the code does.** -/
theorem shiftedPairs (hn : w * h % 4 = 0) (hnv21 : nv21.length = w * h + w * h / 2)
    (hnv12 : nv12.length = nv21.length) :
    ∃ out, convertToNV12 (some nv21) (some nv12) w h = .ok (some out) ∧
      ShiftedPairs (w * h) nv21 nv12 out := by
  obtain ⟨out, hout, hlen, hget⟩ := exists_convertToNV12 hn hnv21 hnv12
  refine ⟨out, hout, hlen, ?_, ?_, ?_, ?_⟩
  · intro i hi
    rw [hget, if_neg (by omega), if_neg (by omega), if_pos (by omega)]
  · intro k hk
    rw [hget, if_neg (by omega), if_pos (by omega)]
    congr 1
    omega
  · intro k hk
    rw [hget, if_pos (by omega)]
    congr 1
    omega
  · intro hpos
    rw [hget, if_neg (by omega), if_neg (by omega), if_neg (by omega)]

end Code

/-! ### What it should do -/

/-- The luma is copied, and the bytes of every chroma pair are swapped. -/
structure IsNV12 (n : ℕ) (nv21 out : List Byte) : Prop where
  luma : ∀ i < n, out[i]? = nv21[i]?
  chroma : ∀ j < n / 2, Even j →
    out[n + j]? = nv21[n + j + 1]? ∧ out[n + j + 1]? = nv21[n + j]?

/-- The bytes that are moved, and the last byte of `nv12` before, are all the same. -/
def MovesEqual (n : ℕ) (nv21 nv12 : List Byte) : Prop :=
  ∀ i, n ≤ i + 1 → i < n + n / 2 → nv21[i]? = nv12[n + n / 2 - 1]?

section Equal

variable {n : ℕ} {nv21 nv12 out : List Byte} (hn : n % 4 = 0) (hout : ShiftedPairs n nv21 nv12 out)
include hn hout

/-- If the result is right, bytes two apart are equal. -/
theorem ShiftedPairs.movesEqual (h : IsNV12 n nv21 out) : MovesEqual n nv21 nv12 := by
  intro i hi hlt
  have hfirst : nv21[n - 1]? = nv21[n]? := by
    rw [← h.luma (n - 1) (by omega)]
    exact hout.first 0 (by omega)
  have hbefore : ∀ k ≤ n / 4, nv21[n - 1 + 2 * k]? = nv21[n - 1]? := by
    intro k hk
    induction k with
    | zero => rfl
    | succ k ih =>
      have hchroma := (h.chroma (2 * k) (by omega) (even_two_mul k)).1
      rw [hout.second k (by omega)] at hchroma
      rw [← ih (by omega), hchroma]
      congr 1
      omega
  have hafter : ∀ k < n / 4, nv21[n + 2 * k]? = nv21[n]? := by
    intro k hk
    induction k with
    | zero => rfl
    | succ k ih =>
      have hchroma := (h.chroma (2 * k) (by omega) (even_two_mul k)).2
      have hmoved := hout.first (k + 1) hk
      rw [show n - 1 + 2 * (k + 1) = n + 2 * k + 1 by omega] at hmoved
      rw [← hmoved, hchroma, ih (by omega)]
  have hlast : nv12[n + n / 2 - 1]? = nv21[n]? := by
    have hchroma := (h.chroma (2 * (n / 4 - 1)) (by omega) (even_two_mul _)).2
    rw [← hout.last (by omega), ← hafter (n / 4 - 1) (by omega), ← hchroma]
    congr 1
    omega
  rcases Nat.even_or_odd' (i + 1 - n) with ⟨k, hk | hk⟩
  · rw [show i = n - 1 + 2 * k by omega, hbefore k (by omega), hlast, hfirst]
  · rw [show i = n + 2 * k by omega, hafter k (by omega), hlast]

/-- If the bytes that are moved are all the same, the frame is copied. -/
theorem ShiftedPairs.eq_of_movesEqual (h : MovesEqual n nv21 nv12)
    (hnv21 : nv21.length = n + n / 2) (hnv12 : nv12.length = nv21.length) : out = nv21 := by
  apply List.ext_getElem?
  intro i
  by_cases hluma : i + 1 < n
  · exact hout.luma i hluma
  · by_cases hlt : i < n + n / 2
    · have hi := h i (by omega) hlt
      rcases Nat.even_or_odd' (i + 1 - n) with ⟨k, hk | hk⟩
      · by_cases hlast : k < n / 4
        · have hmoved := hout.first k hlast
          rw [h (n + 2 * k) (by omega) (by omega)] at hmoved
          rw [hi, ← hmoved]
          congr 1
          omega
        · rw [hi, ← hout.last (by omega)]
          congr 1
          omega
      · have hmoved := hout.second k (by omega)
        rw [h (n - 1 + 2 * k) (by omega) (by omega)] at hmoved
        rw [hi, ← hmoved]
        congr 1
        omega
    · have hlen := hout.length_eq
      rw [List.getElem?_eq_none (by omega), List.getElem?_eq_none (by omega)]

/-- Copying the frame is right if the bytes that are moved are all the same. -/
theorem ShiftedPairs.isNV12 (h : MovesEqual n nv21 nv12) (hnv21 : nv21.length = n + n / 2)
    (hnv12 : nv12.length = nv21.length) : IsNV12 n nv21 out := by
  rw [hout.eq_of_movesEqual hn h hnv21 hnv12]
  refine ⟨fun i _ ↦ rfl, fun j hj heven ↦ ?_⟩
  have heven := Nat.even_iff.1 heven
  rw [h (n + j) (by omega) (by omega), h (n + j + 1) (by omega) (by omega)]
  exact ⟨rfl, rfl⟩

end Equal

/-- The method converts a frame, and converting the result gives back the frame. -/
def ConvertsToNV12
    (convert : Option (List Byte) → Option (List Byte) → ℕ → ℕ →
      Except Thrown (Option (List Byte)))
    (nv21 nv12 : List Byte) (width height : ℕ) : Prop :=
  ∃ out, convert (some nv21) (some nv12) width height = .ok (some out) ∧
    IsNV12 (width * height) nv21 out ∧
    convert (some out) (some nv12) width height = .ok (some nv21)

/-- Even sides make the number of chroma bytes even. -/
theorem luma_mod_four {w h : ℕ} (hw : Even w) (hh : Even h) : w * h % 4 = 0 := by
  obtain ⟨p, rfl⟩ := hw.two_dvd
  obtain ⟨q, rfl⟩ := hh.two_dvd
  rw [show 2 * p * (2 * q) = 4 * (p * q) by ring, Nat.mul_mod_right]

theorem convertsToNV12_convert_iff {nv21 nv12 : List Byte} {w h : ℕ} (hn : w * h % 4 = 0)
    (hnv21 : nv21.length = w * h + w * h / 2) (hnv12 : nv12.length = nv21.length) :
    ConvertsToNV12 convertToNV12 nv21 nv12 w h ↔ MovesEqual (w * h) nv21 nv12 := by
  obtain ⟨out, hout, hpairs⟩ := shiftedPairs hn hnv21 hnv12
  constructor
  · rintro ⟨out', hout', hright, -⟩
    obtain rfl : out = out' := Option.some.inj (Except.ok.inj (hout.symm.trans hout'))
    exact hpairs.movesEqual hn hright
  · intro hequal
    have hcopy := hpairs.eq_of_movesEqual hn hequal hnv21 hnv12
    refine ⟨out, hout, hpairs.isNV12 hn hequal hnv21 hnv12, ?_⟩
    rw [hcopy] at hout ⊢
    exact hout

/-- **A frame is converted** by either method if and only if the last byte of the luma, every byte
of the chroma and the last byte that `nv12` held before are all the same. -/
theorem convertsToNV12_iff (nv21 nv12 : List Byte) (width height : ℕ) (hwidth : Even width)
    (hheight : Even height) (hnv21 : nv21.length = 3 * width * height / 2)
    (hnv12 : nv12.length = 3 * width * height / 2) :
    (ConvertsToNV12 AvcEncoder.NV21ToNV12 nv21 nv12 width height ↔
        MovesEqual (width * height) nv21 nv12) ∧
      (ConvertsToNV12 VideoH264Encoder.NV21ToNV12 nv21 nv12 width height ↔
        MovesEqual (width * height) nv21 nv12) := by
  have hmul : 3 * width * height = 3 * (width * height) := Nat.mul_assoc 3 width height
  have hn := luma_mod_four hwidth hheight
  have hiff : ConvertsToNV12 convertToNV12 nv21 nv12 width height ↔
      MovesEqual (width * height) nv21 nv12 :=
    convertsToNV12_convert_iff hn (by omega) (by omega)
  exact ⟨hiff, hiff⟩

theorem convertsToNV12_grey :
    ConvertsToNV12 AvcEncoder.NV21ToNV12 [0x10#8, 0x20#8, 0x30#8, 0x00#8, 0x00#8, 0x00#8]
      (List.replicate 6 0x00#8) 2 2 :=
  ((convertsToNV12_iff _ _ 2 2 (by decide) (by decide) (by decide) (by decide)).1).2 (by
    intro i hi hlt
    obtain rfl | rfl | rfl : i = 3 ∨ i = 4 ∨ i = 5 := by omega
    · rfl
    · rfl
    · rfl)

/-- **A frame of one chroma pair**: `V` goes into the luma, and the last byte stays zero. -/
theorem not_convertsToNV12_two_two :
    ¬ ConvertsToNV12 AvcEncoder.NV21ToNV12 [0x10#8, 0x20#8, 0x30#8, 0x40#8, 0x50#8, 0x60#8]
        (List.replicate 6 0x00#8) 2 2 ∧
      ¬ ConvertsToNV12 VideoH264Encoder.NV21ToNV12
        [0x10#8, 0x20#8, 0x30#8, 0x40#8, 0x50#8, 0x60#8] (List.replicate 6 0x00#8) 2 2 := by
  have hno : ¬ ConvertsToNV12 convertToNV12 [0x10#8, 0x20#8, 0x30#8, 0x40#8, 0x50#8, 0x60#8]
      (List.replicate 6 0x00#8) 2 2 := by
    rw [convertsToNV12_convert_iff (by decide) (by decide) (by decide)]
    intro h
    exact absurd (h 3 (by decide) (by decide)) (by decide)
  exact ⟨hno, hno⟩

end DoorIntercom
