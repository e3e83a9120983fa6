import DoorIntercom.Video.Nv12

/-!
# The color conversion of a frame

`NV21Convertor.convert` changes the chroma of a frame, pairs `V U` after the luma, into the layout
that the encoder wants: pairs or two planes, either of the two components first, and `mYPadding`
bytes between luma and chroma. `mBuffer` serves as a cell to swap a pair with, as the place where
the two planes are taken apart, and as the result if there is padding.

The last two collide: with padding, the luma is copied to the start of `mBuffer` while the two
planes are still there, and what is then copied behind the padding is luma (`planar_padded`). And
the size of `mBuffer` is computed in `int` arithmetic.
-/

namespace DoorIntercom

open JavaArray FallibleRun

/-! ### The code -/

/-- The fields of `NV21Convertor`, without `mSize`, which is always `mWidth * mHeight`. -/
structure NV21Convertor where
  mSliceHeight : ℕ
  mHeight : ℕ
  mStride : ℕ
  mWidth : ℕ
  mPlanar : Bool
  mPanesReversed : Bool
  mYPadding : ℕ
  mBuffer : Option (List Byte)

namespace NV21Convertor

/-- The arrays after a conversion, and the one that is returned. -/
structure Converted where
  mBuffer : List Byte
  data : List Byte
  result : List Byte

def mSize (c : NV21Convertor) : ℕ := c.mWidth * c.mHeight

/-- The size of `mBuffer`. -/
def bufferSize (c : NV21Convertor) : ℤ :=
  int ((int (3 * c.mSliceHeight * c.mStride : ℕ)).tdiv 2 + c.mYPadding)

/-- `mBuffer`, a new one if there is none or the size is another. -/
def buffer (c : NV21Convertor) : Except Thrown (List Byte) :=
  match c.mBuffer with
  | some mBuffer => if mBuffer.length = c.bufferSize then .ok mBuffer else new 0 c.bufferSize
  | none => new 0 c.bufferSize

/-- One iteration of the loop that swaps `U` and `V`, on `mBuffer` and `data`. -/
def swapPair (arrays : List Byte × List Byte) (i : ℕ) : Except Thrown (List Byte × List Byte) := do
  let mBuffer ← put arrays.1 0 (← get arrays.2 (i + 1))
  let data ← put arrays.2 (i + 1) (← get arrays.2 i)
  let data ← put data i (← get mBuffer 0)
  return (mBuffer, data)

/-- The loop. -/
def swapPairs (mSize : ℕ) (arrays : List Byte × List Byte) :
    Except Thrown (List Byte × List Byte) :=
  (List.range ((mSize / 2 + 1) / 2)).foldlM (fun arrays k ↦ swapPair arrays (mSize + 2 * k)) arrays

/-- The assignments of the loops that take `U` and `V` apart. -/
def deinterleaveMoves (mPanesReversed : Bool) (mSize : ℕ) : List (ℕ × ℕ) :=
  (List.range (mSize / 4)).flatMap fun i ↦
    if mPanesReversed then [(i, mSize + 2 * i), (mSize / 4 + i, mSize + 2 * i + 1)]
    else [(i, mSize + 2 * i + 1), (mSize / 4 + i, mSize + 2 * i)]

/-- The pairs as the encoder wants them. -/
def orderPairs (c : NV21Convertor) (arrays : List Byte × List Byte) :
    Except Thrown (List Byte × List Byte) :=
  if c.mPanesReversed then .ok arrays else swapPairs c.mSize arrays

/-- `convert`. -/
def convert (c : NV21Convertor) (data : List Byte) : Except Thrown Converted := do
  let mBuffer ← c.buffer
  if c.mSliceHeight = c.mHeight ∧ c.mStride = c.mWidth then
    if c.mPlanar then
      let mBuffer ← assign data (deinterleaveMoves c.mPanesReversed c.mSize) mBuffer
      if c.mYPadding = 0 then
        let data ← arraycopy mBuffer 0 data c.mSize (c.mSize / 2)
        return ⟨mBuffer, data, data⟩
      else
        let mBuffer ← arraycopy data 0 mBuffer 0 c.mSize
        let mBuffer ← arraycopy mBuffer 0 mBuffer (c.mSize + c.mYPadding) (c.mSize / 2)
        return ⟨mBuffer, data, mBuffer⟩
    else
      let (mBuffer, data) ← c.orderPairs (mBuffer, data)
      if 0 < c.mYPadding then
        let mBuffer ← arraycopy data 0 mBuffer 0 c.mSize
        let mBuffer ← arraycopy data c.mSize mBuffer (c.mSize + c.mYPadding) (c.mSize / 2)
        return ⟨mBuffer, data, mBuffer⟩
      else return ⟨mBuffer, data, data⟩
  else return ⟨mBuffer, data, data⟩

end NV21Convertor

/-! ### The layout -/

/-- The component of pair `k` that comes first in the layout: `U`, or `V` if the panes are
reversed. -/
def firstPane (reversed : Bool) (n : ℕ) (frame : List Byte) (k : ℕ) : Option Byte :=
  frame[n + 2 * k + reversed.not.toNat]?

/-- The other component. -/
def secondPane (reversed : Bool) (n : ℕ) (frame : List Byte) (k : ℕ) : Option Byte :=
  frame[n + 2 * k + reversed.toNat]?

/-- The array has the luma of the frame, of `n` bytes, and its chroma behind the padding, as two
planes or as pairs. -/
structure HasLayout (planar reversed : Bool) (n padding : ℕ) (frame out : List Byte) : Prop where
  luma : ∀ i < n, out[i]? = frame[i]?
  first : ∀ k < n / 4,
    out[n + padding + if planar then k else 2 * k]? = firstPane reversed n frame k
  second : ∀ k < n / 4,
    out[n + padding + if planar then n / 4 + k else 2 * k + 1]? = secondPane reversed n frame k

/-! ### Swapping the pairs -/

section Swap

variable {n : ℕ} {mBuffer data : List Byte}

/-- **One iteration** swaps the bytes of a pair. -/
theorem swapPair_eq (hbuffer : 0 < mBuffer.length) (i : ℕ) (hi : i + 1 < data.length) :
    NV21Convertor.swapPair (mBuffer, data) i =
      .ok (mBuffer.set 0 data[i + 1], (data.set (i + 1) data[i]).set i data[i + 1]) := by
  have hget : get (mBuffer.set 0 data[i + 1]) 0 = .ok data[i + 1] := by
    rw [get_eq_ok, List.getElem?_set_self hbuffer]
  simp only [NV21Convertor.swapPair, get_of_lt hi, get_of_lt (show i < data.length by omega),
    put_of_lt hbuffer, put_of_lt hi, bind, Except.bind, hget, pure, Except.pure]
  rw [put_of_lt (by rw [List.length_set]; omega)]

/-- **The loop** swaps the first `m` pairs after `m` iterations. -/
theorem foldlM_swapPair (m : ℕ) (hbuffer : m ≤ mBuffer.length) (hm : n + 2 * m ≤ data.length) :
    ∃ mBuffer' data', (List.range m).foldlM
        (fun arrays k ↦ NV21Convertor.swapPair arrays (n + 2 * k)) (mBuffer, data) =
          .ok (mBuffer', data') ∧
      mBuffer'.length = mBuffer.length ∧ data'.length = data.length ∧
      (∀ i, i < n ∨ n + 2 * m ≤ i → data'[i]? = data[i]?) ∧
      ∀ k < m, data'[n + 2 * k]? = data[n + 2 * k + 1]? ∧
        data'[n + 2 * k + 1]? = data[n + 2 * k]? := by
  induction m with
  | zero => exact ⟨mBuffer, data, rfl, rfl, rfl, fun _ _ ↦ rfl, fun k hk ↦ absurd hk (by omega)⟩
  | succ m ih =>
    obtain ⟨mBuffer', data', hrun, hbuffer', hdata', hout, hin⟩ := ih (by omega) (by omega)
    have hlt : n + 2 * m + 1 < data'.length := by omega
    have hlt' : n + 2 * m < data'.length := by omega
    have hpos : 0 < mBuffer'.length := by omega
    have hstep := swapPair_eq hpos (n + 2 * m) hlt
    refine ⟨mBuffer'.set 0 data'[n + 2 * m + 1],
      (data'.set (n + 2 * m + 1) data'[n + 2 * m]).set (n + 2 * m) data'[n + 2 * m + 1],
      ?_, ?_, ?_, ?_, ?_⟩
    · rw [List.range_succ, List.foldlM_append, hrun]
      simp only [bind, Except.bind, List.foldlM_cons, List.foldlM_nil, hstep, pure, Except.pure]
    · rw [List.length_set, hbuffer']
    · rw [List.length_set, List.length_set, hdata']
    · intro i hi
      rw [List.getElem?_set_ne (by omega), List.getElem?_set_ne (by omega), hout i (by omega)]
    · intro k hk
      have hfirst : data'[n + 2 * m]? = data[n + 2 * m]? := hout _ (by omega)
      have hsecond : data'[n + 2 * m + 1]? = data[n + 2 * m + 1]? := hout _ (by omega)
      by_cases hkm : k = m
      · subst hkm
        rw [List.getElem?_set_self (by rw [List.length_set]; omega),
          List.getElem?_set_ne (by omega), List.getElem?_set_self (by omega), ← hfirst, ← hsecond,
          List.getElem?_eq_getElem (by omega), List.getElem?_eq_getElem (by omega)]
        exact ⟨rfl, rfl⟩
      · rw [List.getElem?_set_ne (by omega), List.getElem?_set_ne (by omega),
          List.getElem?_set_ne (by omega), List.getElem?_set_ne (by omega)]
        exact hin k (by omega)

/-- **All pairs are swapped**, and nothing else changes. -/
theorem swapPairs_eq (hbuffer : n / 2 ≤ mBuffer.length) (hn : n % 4 = 0)
    (hdata : n + n / 2 ≤ data.length) :
    ∃ mBuffer' data', NV21Convertor.swapPairs n (mBuffer, data) = .ok (mBuffer', data') ∧
      mBuffer'.length = mBuffer.length ∧ data'.length = data.length ∧
      (∀ i < n, data'[i]? = data[i]?) ∧
      ∀ k < n / 4, data'[n + 2 * k]? = data[n + 2 * k + 1]? ∧
        data'[n + 2 * k + 1]? = data[n + 2 * k]? := by
  have hsteps : (n / 2 + 1) / 2 = n / 4 := by omega
  obtain ⟨mBuffer', data', hrun, hbuffer', hdata', hout, hin⟩ :=
    foldlM_swapPair (n / 4) (show n / 4 ≤ mBuffer.length by omega)
      (show n + 2 * (n / 4) ≤ data.length by omega)
  rw [← hsteps] at hrun
  exact ⟨mBuffer', data', hrun, hbuffer', hdata', fun i hi ↦ hout i (Or.inl hi), hin⟩

end Swap

/-! ### Taking the planes apart -/

section Deinterleave

variable {n : ℕ} {reversed : Bool} {data mBuffer planes : List Byte}

/-- The two assignments for a pair. -/
theorem deinterleaveMoves_eq (reversed : Bool) (n : ℕ) :
    NV21Convertor.deinterleaveMoves reversed n = (List.range (n / 4)).flatMap fun k ↦
      [(k, n + 2 * k + reversed.not.toNat), (n / 4 + k, n + 2 * k + reversed.toNat)] := by
  cases reversed <;> rfl

theorem mem_deinterleaveMoves {move : ℕ × ℕ} :
    move ∈ NV21Convertor.deinterleaveMoves reversed n ↔ ∃ k < n / 4,
      move = (k, n + 2 * k + reversed.not.toNat) ∨
        move = (n / 4 + k, n + 2 * k + reversed.toNat) := by
  rw [deinterleaveMoves_eq]
  simp only [List.mem_flatMap, List.mem_range, List.mem_cons, List.not_mem_nil, or_false]

/-- **The loop** puts the first component into the first plane and the other into the second. -/
theorem deinterleave (reversed : Bool) (hn : n % 4 = 0) (hdata : n + n / 2 ≤ data.length)
    (hbuffer : n / 2 ≤ mBuffer.length) :
    ∃ planes, assign data (NV21Convertor.deinterleaveMoves reversed n) mBuffer = .ok planes ∧
      planes.length = mBuffer.length ∧
      ∀ k < n / 4, planes[k]? = firstPane reversed n data k ∧
        planes[n / 4 + k]? = secondPane reversed n data k := by
  have hbit := Bool.toNat_lt reversed
  have hbit' := Bool.toNat_lt reversed.not
  have hbounds : ∀ move ∈ NV21Convertor.deinterleaveMoves reversed n,
      move.1 < mBuffer.length ∧ move.2 < data.length := by
    intro move hmove
    obtain ⟨k, hk, rfl | rfl⟩ := mem_deinterleaveMoves.1 hmove
    · exact ⟨by omega, by omega⟩
    · exact ⟨by omega, by omega⟩
  obtain ⟨planes, hplanes⟩ := assign_isOk_iff.2 hbounds
  refine ⟨planes, hplanes, length_assign hplanes, fun k hk ↦ ⟨?_, ?_⟩⟩
  · have hlast : lastSource (NV21Convertor.deinterleaveMoves reversed n) k =
        some (n + 2 * k + reversed.not.toNat) := by
      apply lastSource_eq_some (mem_deinterleaveMoves.2 ⟨k, hk, Or.inl rfl⟩)
      intro move hmove hdest
      obtain ⟨k', hk', rfl | rfl⟩ := mem_deinterleaveMoves.1 hmove
      · simp only at hdest
        rw [hdest]
      · simp only at hdest
        omega
    rw [getElem?_assign hplanes, hlast, Option.elim_some, firstPane]
  · have hlast : lastSource (NV21Convertor.deinterleaveMoves reversed n) (n / 4 + k) =
        some (n + 2 * k + reversed.toNat) := by
      apply lastSource_eq_some (mem_deinterleaveMoves.2 ⟨k, hk, Or.inr rfl⟩)
      intro move hmove hdest
      obtain ⟨k', hk', rfl | rfl⟩ := mem_deinterleaveMoves.1 hmove
      · simp only at hdest
        omega
      · simp only at hdest ⊢
        omega
    rw [getElem?_assign hplanes, hlast, Option.elim_some, secondPane]

end Deinterleave

/-! ### The buffer -/

namespace NV21Convertor

variable {c : NV21Convertor} {mBuffer data : List Byte}

/-- The size of `mBuffer` is an `int`, and so is what it is computed from. -/
def SizeFits (c : NV21Convertor) : Prop :=
  3 * c.mSliceHeight * c.mStride < 2 ^ 31 ∧
    3 * c.mSliceHeight * c.mStride / 2 + c.mYPadding < 2 ^ 31

theorem bufferSize_of_sizeFits (h : c.SizeFits) :
    c.bufferSize = (3 * c.mSliceHeight * c.mStride / 2 + c.mYPadding : ℕ) := by
  rw [bufferSize, int_tdiv_two h.1, ← Nat.cast_add]
  exact int_of_lt h.2

/-- If it is none, `mBuffer` is too small, or there is none. -/
theorem bufferSize_lt (heven : 3 * c.mSliceHeight * c.mStride ≠ 2 ^ 32 - 1)
    (hlt : 3 * c.mSliceHeight * c.mStride < 2 ^ 32) (hpadding : c.mYPadding < 2 ^ 31)
    (h : ¬ c.SizeFits) :
    c.bufferSize < (3 * c.mSliceHeight * c.mStride / 2 + c.mYPadding : ℕ) ∧
      (c.mYPadding = 0 → c.bufferSize < 0) := by
  rw [SizeFits] at h
  rw [bufferSize]
  by_cases hint : 3 * c.mSliceHeight * c.mStride < 2 ^ 31
  · rw [int_tdiv_two hint, ← Nat.cast_add, int_of_le (by omega) (by omega)]
    omega
  · have hneg := int_tdiv_two_neg (Nat.not_lt.1 hint) (by omega)
    have hle : -2 ^ 31 ≤ (int (3 * c.mSliceHeight * c.mStride : ℕ)).tdiv 2 := by
      rw [int_of_le (Nat.not_lt.1 hint) (by omega), ← Int.neg_sub, Int.neg_tdiv,
        Int.tdiv_eq_ediv_of_nonneg (by omega)]
      omega
    rw [int_eq_self (by omega) (by omega)]
    omega

theorem length_of_buffer (h : c.buffer = .ok mBuffer) : (mBuffer.length : ℤ) = c.bufferSize := by
  rw [buffer] at h
  split at h
  · split_ifs at h with heq
    · rwa [← Except.ok.inj h]
    · exact length_of_new h
  · exact length_of_new h

theorem buffer_of_sizeFits (h : c.SizeFits) : ∃ mBuffer, c.buffer = .ok mBuffer ∧
    mBuffer.length = 3 * c.mSliceHeight * c.mStride / 2 + c.mYPadding := by
  have hsize := bufferSize_of_sizeFits h
  have hok : ∃ mBuffer, c.buffer = .ok mBuffer := by
    rw [buffer, hsize, new_natCast]
    split
    · split_ifs
      · exact ⟨_, rfl⟩
      · exact ⟨_, rfl⟩
    · exact ⟨_, rfl⟩
  obtain ⟨mBuffer, hbuffer⟩ := hok
  have hlen := length_of_buffer hbuffer
  exact ⟨mBuffer, hbuffer, by omega⟩

theorem length_of_swapPairs {n : ℕ} {arrays arrays' : List Byte × List Byte}
    (h : swapPairs n arrays = .ok arrays') : arrays'.1.length = arrays.1.length := by
  rw [swapPairs] at h
  generalize List.range ((n / 2 + 1) / 2) = steps at h
  induction steps generalizing arrays with
  | nil => rw [← Except.ok.inj h]
  | cons k steps ih =>
    rw [List.foldlM_cons] at h
    obtain ⟨next, hnext, hrest⟩ := bind_eq_ok.1 h
    rw [ih hrest]
    rw [swapPair] at hnext
    obtain ⟨x, -, hnext⟩ := bind_eq_ok.1 hnext
    obtain ⟨mBuffer', hput, hnext⟩ := bind_eq_ok.1 hnext
    obtain ⟨y, -, hnext⟩ := bind_eq_ok.1 hnext
    obtain ⟨data', -, hnext⟩ := bind_eq_ok.1 hnext
    obtain ⟨z, -, hnext⟩ := bind_eq_ok.1 hnext
    obtain ⟨data'', -, hnext⟩ := bind_eq_ok.1 hnext
    rw [← Except.ok.inj hnext]
    exact length_of_put hput

theorem length_of_orderPairs {arrays arrays' : List Byte × List Byte}
    (h : c.orderPairs arrays = .ok arrays') : arrays'.1.length = arrays.1.length := by
  rw [orderPairs] at h
  split_ifs at h
  · rw [← Except.ok.inj h]
  · exact length_of_swapPairs h

/-! ### The conversions -/

/-- The pairs are swapped unless the panes are reversed. -/
theorem orderPairs_eq (hn : c.mSize % 4 = 0) (hdata : data.length = c.mSize + c.mSize / 2)
    (hbuffer : c.mSize / 2 ≤ mBuffer.length) : ∃ mBuffer' data',
    c.orderPairs (mBuffer, data) = .ok (mBuffer', data') ∧
    mBuffer'.length = mBuffer.length ∧ data'.length = data.length ∧
    (∀ i < c.mSize, data'[i]? = data[i]?) ∧
    ∀ k < c.mSize / 4,
      data'[c.mSize + 2 * k]? = firstPane c.mPanesReversed c.mSize data k ∧
        data'[c.mSize + 2 * k + 1]? = secondPane c.mPanesReversed c.mSize data k := by
  rw [orderPairs]
  rcases hreversed : c.mPanesReversed with _ | _
  · obtain ⟨mBuffer', data', hswap, hblen, hdlen, hluma, hpairs⟩ := swapPairs_eq hbuffer hn hdata.ge
    exact ⟨mBuffer', data', hswap, hblen, hdlen, hluma, hpairs⟩
  · exact ⟨mBuffer, data, rfl, rfl, rfl, fun _ _ ↦ rfl, fun k _ ↦ ⟨rfl, rfl⟩⟩

section Convert

variable (hshape : c.mSliceHeight = c.mHeight ∧ c.mStride = c.mWidth) (hn : c.mSize % 4 = 0)
  (hdata : data.length = c.mSize + c.mSize / 2)
  (hbuffer : c.buffer = .ok mBuffer)
  (hlen : mBuffer.length = c.mSize + c.mSize / 2 + c.mYPadding)
include hshape hn hdata hbuffer hlen

/-- Without padding, the planes are copied over the pairs. -/
theorem planar_unpadded (hplanar : c.mPlanar = true) (hpadding : c.mYPadding = 0) :
    ∃ r, c.convert data = .ok r ∧
      HasLayout true c.mPanesReversed c.mSize 0 data r.result := by
  obtain ⟨planes, hplanes, hplen, hpanes⟩ := deinterleave c.mPanesReversed hn
    hdata.ge (show c.mSize / 2 ≤ mBuffer.length by omega)
  obtain ⟨out, hout⟩ : ∃ out, arraycopy planes 0 data c.mSize (c.mSize / 2) = .ok out :=
    ⟨_, arraycopy_eq (by omega) (by omega)⟩
  have hget := getElem?_arraycopy hout
  refine ⟨⟨planes, out, out⟩, ?_, ?_, ?_, ?_⟩
  · simp only [convert, hbuffer, if_pos hshape, hplanar, if_true, hplanes, if_pos hpadding, hout,
      bind, Except.bind, pure, Except.pure]
  · intro i hi
    rw [hget, if_neg (by omega)]
  · intro k hk
    rw [hget, if_pos (by simp only [if_true]; omega), ← (hpanes k hk).1]
    congr 1
    simp only [if_true]
    omega
  · intro k hk
    rw [hget, if_pos (by simp only [if_true]; omega), ← (hpanes k hk).2]
    congr 1
    simp only [if_true]
    omega

/-- **With padding**, luma is copied in place of the planes. -/
theorem planar_padded (hplanar : c.mPlanar = true) (hpadding : 0 < c.mYPadding) :
    ∃ r, c.convert data = .ok r ∧ (∀ i < c.mSize, r.result[i]? = data[i]?) ∧
      ∀ k < c.mSize / 2, r.result[c.mSize + c.mYPadding + k]? = data[k]? := by
  obtain ⟨planes, hplanes, hplen, -⟩ := deinterleave c.mPanesReversed hn
    hdata.ge (show c.mSize / 2 ≤ mBuffer.length by omega)
  obtain ⟨luma, hluma⟩ : ∃ luma, arraycopy data 0 planes 0 c.mSize = .ok luma :=
    ⟨_, arraycopy_eq (by omega) (by omega)⟩
  have hllen := length_arraycopy hluma
  obtain ⟨out, hout⟩ : ∃ out,
      arraycopy luma 0 luma (c.mSize + c.mYPadding) (c.mSize / 2) = .ok out :=
    ⟨_, arraycopy_eq (by omega) (by omega)⟩
  have hget := getElem?_arraycopy hout
  have hlget := getElem?_arraycopy hluma
  refine ⟨⟨out, data, out⟩, ?_, ?_, ?_⟩
  · simp only [convert, hbuffer, if_pos hshape, hplanar, if_true, hplanes,
      if_neg (show ¬ c.mYPadding = 0 by omega), hluma, hout, bind, Except.bind, pure, Except.pure]
  · intro i hi
    rw [hget, if_neg (by omega), hlget, if_pos (by omega), Nat.sub_zero, Nat.zero_add]
  · intro k hk
    rw [hget, if_pos (by omega), hlget, if_pos (by omega)]
    congr 1
    omega

theorem semiplanar_unpadded (hplanar : c.mPlanar = false) (hpadding : c.mYPadding = 0) :
    ∃ r, c.convert data = .ok r ∧
      HasLayout false c.mPanesReversed c.mSize 0 data r.result := by
  obtain ⟨mBuffer', data', hpairs, -, -, hluma, hpanes⟩ :=
    orderPairs_eq hn hdata (show c.mSize / 2 ≤ mBuffer.length by omega)
  refine ⟨⟨mBuffer', data', data'⟩, ?_, hluma, fun k hk ↦ (hpanes k hk).1,
    fun k hk ↦ (hpanes k hk).2⟩
  rw [convert, hbuffer]
  simp only [bind, Except.bind, if_pos hshape, hplanar, Bool.false_eq_true, if_false, hpairs,
    if_neg (show ¬ 0 < c.mYPadding by omega), pure, Except.pure]

theorem semiplanar_padded (hplanar : c.mPlanar = false) (hpadding : 0 < c.mYPadding) :
    ∃ r, c.convert data = .ok r ∧
      HasLayout false c.mPanesReversed c.mSize c.mYPadding data r.result := by
  obtain ⟨mBuffer', data', hpairs, hblen, hdlen, hpluma, hpanes⟩ :=
    orderPairs_eq hn hdata (show c.mSize / 2 ≤ mBuffer.length by omega)
  obtain ⟨luma, hluma⟩ : ∃ luma, arraycopy data' 0 mBuffer' 0 c.mSize = .ok luma :=
    ⟨_, arraycopy_eq (by omega) (by omega)⟩
  have hllen := length_arraycopy hluma
  obtain ⟨out, hout⟩ : ∃ out,
      arraycopy data' c.mSize luma (c.mSize + c.mYPadding) (c.mSize / 2) = .ok out :=
    ⟨_, arraycopy_eq (by omega) (by omega)⟩
  have hget := getElem?_arraycopy hout
  have hlget := getElem?_arraycopy hluma
  refine ⟨⟨out, data', out⟩, ?_, ?_, ?_, ?_⟩
  · rw [convert, hbuffer]
    simp only [bind, Except.bind, if_pos hshape, hplanar, Bool.false_eq_true, if_false, hpairs,
      if_pos hpadding, hluma, hout, pure, Except.pure]
  · intro i hi
    rw [hget, if_neg (by omega), hlget, if_pos (by omega), Nat.sub_zero, Nat.zero_add,
      hpluma i hi]
  · intro k hk
    simp only [Bool.false_eq_true, if_false]
    rw [hget, if_pos (by omega), ← (hpanes k hk).1]
    congr 1
    omega
  · intro k hk
    simp only [Bool.false_eq_true, if_false]
    rw [hget, if_pos (by omega), ← (hpanes k hk).2]
    congr 1
    omega

end Convert

/-- A conversion with padding needs a large enough `mBuffer`. -/
theorem le_bufferSize_of_convert (hshape : c.mSliceHeight = c.mHeight ∧ c.mStride = c.mWidth)
    (hpadding : 0 < c.mYPadding) {r : Converted} (h : c.convert data = .ok r) :
    (c.mSize + c.mYPadding + c.mSize / 2 : ℕ) ≤ c.bufferSize := by
  rw [convert] at h
  obtain ⟨mBuffer, hbuffer, h⟩ := bind_eq_ok.1 h
  rw [← length_of_buffer hbuffer, Nat.cast_le]
  rw [if_pos hshape] at h
  rcases hplanar : c.mPlanar with _ | _
  · rw [hplanar, if_neg Bool.false_ne_true] at h
    obtain ⟨arrays, harrays, h⟩ := bind_eq_ok.1 h
    simp only [if_pos hpadding] at h
    obtain ⟨luma, hluma, h⟩ := bind_eq_ok.1 h
    obtain ⟨out, hout, -⟩ := bind_eq_ok.1 h
    have hle := (arraycopy_eq_ok hout).2
    rwa [length_arraycopy hluma, length_of_orderPairs harrays] at hle
  · rw [hplanar, if_pos rfl] at h
    obtain ⟨planes, hplanes, h⟩ := bind_eq_ok.1 h
    rw [if_neg (show ¬ c.mYPadding = 0 by omega)] at h
    obtain ⟨luma, hluma, h⟩ := bind_eq_ok.1 h
    obtain ⟨out, hout, -⟩ := bind_eq_ok.1 h
    have hle := (arraycopy_eq_ok hout).2
    rwa [length_arraycopy hluma, length_assign hplanes] at hle

/-- The array returned has the layout that is configured. -/
def Converts (c : NV21Convertor) (data : List Byte) : Prop :=
  ∃ r, c.convert data = .ok r ∧
    HasLayout c.mPlanar c.mPanesReversed c.mSize c.mYPadding data r.result

/-- The luma bytes that are copied in place of the planes happen to be equal to them. -/
def LumaEqualsPlanes (c : NV21Convertor) (data : List Byte) : Prop :=
  ∀ k < c.mSize / 4, data[k]? = firstPane c.mPanesReversed c.mSize data k ∧
    data[c.mSize / 4 + k]? = secondPane c.mPanesReversed c.mSize data k

/-- **A conversion to planes with padding** is right only by chance. -/
theorem converts_planar_padded_iff
    (hshape : c.mSliceHeight = c.mHeight ∧ c.mStride = c.mWidth) (hn : c.mSize % 4 = 0)
    (hdata : data.length = c.mSize + c.mSize / 2) (hbuffer : c.buffer = .ok mBuffer)
    (hlen : mBuffer.length = c.mSize + c.mSize / 2 + c.mYPadding) (hplanar : c.mPlanar = true)
    (hpadding : 0 < c.mYPadding) : c.Converts data ↔ c.LumaEqualsPlanes data := by
  obtain ⟨r, hr, hluma, hcopied⟩ :=
    planar_padded hshape hn hdata hbuffer hlen hplanar hpadding
  constructor
  · rintro ⟨r', hr', hlayout⟩
    obtain rfl : r = r' := Except.ok.inj (hr.symm.trans hr')
    rw [hplanar] at hlayout
    refine fun k hk ↦ ⟨?_, ?_⟩
    · rw [← hlayout.first k hk, ← hcopied k (by omega), if_pos rfl]
    · rw [← hlayout.second k hk, ← hcopied (c.mSize / 4 + k) (by omega), if_pos rfl]
  · intro hequal
    refine ⟨r, hr, hluma, fun k hk ↦ ?_, fun k hk ↦ ?_⟩
    · rw [hplanar, if_pos rfl, hcopied k (by omega), (hequal k hk).1]
    · rw [hplanar, if_pos rfl, hcopied (c.mSize / 4 + k) (by omega), (hequal k hk).2]

/-- **If the size is no `int`**, nothing is converted: there is no `mBuffer`, or it is too small for
the padding. -/
theorem not_converts_of_not_sizeFits
    (hshape : c.mSliceHeight = c.mHeight ∧ c.mStride = c.mWidth)
    (hsize : 3 * c.mSliceHeight * c.mStride = 3 * c.mSize) (hn : c.mSize % 4 = 0)
    (hint : c.mSize + c.mSize / 2 < 2 ^ 31) (hpadding : c.mYPadding < 2 ^ 31)
    (hfits : ¬ c.SizeFits) : ¬ c.Converts data := by
  have hneeded : 3 * c.mSize / 2 + c.mYPadding = c.mSize + c.mYPadding + c.mSize / 2 := by omega
  rintro ⟨r, hr, -⟩
  have hlt := bufferSize_lt (by omega) (by omega) hpadding hfits
  rcases Nat.eq_zero_or_pos c.mYPadding with hzero | hpos
  · rw [convert] at hr
    obtain ⟨mBuffer, hbuffer, -⟩ := bind_eq_ok.1 hr
    have hneg := hlt.2 hzero
    rw [← length_of_buffer hbuffer] at hneg
    exact absurd hneg (Int.not_lt.2 (Int.natCast_nonneg _))
  · have hle := le_bufferSize_of_convert hshape hpos hr
    rw [hsize, hneeded] at hlt
    exact absurd hle (Int.not_le.2 hlt.1)

/-- **If it is one**, only planes with padding may be wrong. -/
theorem converts_iff_of_buffer
    (hshape : c.mSliceHeight = c.mHeight ∧ c.mStride = c.mWidth) (hn : c.mSize % 4 = 0)
    (hdata : data.length = c.mSize + c.mSize / 2) (hbuffer : c.buffer = .ok mBuffer)
    (hlen : mBuffer.length = c.mSize + c.mSize / 2 + c.mYPadding) : c.Converts data ↔
      (c.mPlanar = true → 0 < c.mYPadding → c.LumaEqualsPlanes data) := by
  rcases hplanar : c.mPlanar with _ | _
  · refine iff_of_true ?_ fun h ↦ absurd h Bool.false_ne_true
    rw [Converts, hplanar]
    rcases Nat.eq_zero_or_pos c.mYPadding with hzero | hpos
    · rw [hzero]
      exact semiplanar_unpadded hshape hn hdata hbuffer hlen hplanar hzero
    · exact semiplanar_padded hshape hn hdata hbuffer hlen hplanar hpos
  · rcases Nat.eq_zero_or_pos c.mYPadding with hzero | hpos
    · refine iff_of_true ?_ fun _ h ↦ absurd h (by omega)
      rw [Converts, hplanar, hzero]
      exact planar_unpadded hshape hn hdata hbuffer hlen hplanar hzero
    · rw [converts_planar_padded_iff hshape hn hdata hbuffer hlen hplanar hpos]
      exact ⟨fun h _ _ ↦ h, fun h ↦ h rfl hpos⟩

/-- **A frame is converted** if and only if the size of `mBuffer` is an `int`, and, for planes with
padding, the luma bytes that are copied in their place happen to be equal to them. -/
theorem converts_iff (c : NV21Convertor) (data : List Byte)
    (hshape : c.mSliceHeight = c.mHeight ∧ c.mStride = c.mWidth) (hwidth : Even c.mWidth)
    (hheight : Even c.mHeight) (hdata : data.length = 3 * c.mWidth * c.mHeight / 2)
    (hint : data.length < 2 ^ 31) (hpadding : c.mYPadding < 2 ^ 31) :
    c.Converts data ↔
      c.SizeFits ∧ (c.mPlanar = true → 0 < c.mYPadding → c.LumaEqualsPlanes data) := by
  have hn : c.mSize % 4 = 0 := luma_mod_four hwidth hheight
  have hsize : 3 * c.mSliceHeight * c.mStride = 3 * c.mSize := by
    rw [hshape.1, hshape.2, mSize, Nat.mul_assoc, Nat.mul_comm c.mHeight]
  have hdata' : data.length = c.mSize + c.mSize / 2 := by
    rw [hdata, Nat.mul_assoc]
    change 3 * c.mSize / 2 = _
    omega
  by_cases hfits : c.SizeFits
  · obtain ⟨mBuffer, hbuffer, hlen⟩ := buffer_of_sizeFits hfits
    rw [hsize, show 3 * c.mSize / 2 = c.mSize + c.mSize / 2 by omega] at hlen
    rw [and_iff_right hfits]
    exact converts_iff_of_buffer hshape hn hdata' hbuffer hlen
  · refine iff_of_false ?_ fun h ↦ hfits h.1
    exact not_converts_of_not_sizeFits hshape hsize hn (hdata' ▸ hint) hpadding hfits

theorem converts_semiplanar_padded :
    Converts ⟨2, 2, 2, 2, false, false, 4, none⟩
      [0x10#8, 0x20#8, 0x30#8, 0x40#8, 0x50#8, 0x60#8] :=
  (converts_iff ⟨2, 2, 2, 2, false, false, 4, none⟩ _ (by decide) (by decide) (by decide)
    (by decide) (by decide) (by decide)).2
    ⟨⟨by decide, by decide⟩, fun h ↦ absurd h Bool.false_ne_true⟩

/-- **A frame of one pair, to planes behind 4 bytes of padding**: the chroma returned is the first
two bytes of the luma. -/
theorem not_converts_planar_padded :
    ¬ Converts ⟨2, 2, 2, 2, true, false, 4, none⟩
      [0x10#8, 0x20#8, 0x30#8, 0x40#8, 0x50#8, 0x60#8] := by
  have hbuffer : buffer ⟨2, 2, 2, 2, true, false, 4, none⟩ = .ok (List.replicate 10 0) := rfl
  rw [converts_planar_padded_iff (by decide) (by decide) (by decide) hbuffer (by decide) rfl
    (by decide)]
  intro h
  exact absurd (h 0 (by decide)).1 (by decide)

end NV21Convertor

end DoorIntercom
