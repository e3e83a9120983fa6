import DoorIntercom.Video.EncoderDebugger
import DoorIntercom.Video.PreviewFrame

/-!
# What the encoder is fed with

`onPreviewFrame` rotates a frame of the camera if the phone is upright, converts it in place with
the convertor that `EncoderDebugger` has handed out, and puts it into an input buffer of the
encoder. Rotation and conversion are about positions in arrays; what they are for is a picture.

`fillAll_feeds` is about all frames that are shown to the callback, whatever convertor has
been found or restored and whatever it has converted before: the encoder is fed with the pictures of
the frames, upright, in the layout of its color format.
-/

namespace DoorIntercom

open JavaArray FallibleRun EncoderDebugger

/-! ### The code -/

/-- `NV21Convertor.convert` into a buffer of some capacity, and the convertor afterwards. -/
def NV21Convertor.convertInto (c : NV21Convertor) (data : List Byte) (capacity : ℕ) :
    Except Thrown (NV21Convertor × List Byte) := do
  let converted ← c.convert data
  let min := if capacity < data.length then capacity else data.length
  if min ≤ converted.result.length then
    return ({ c with mBuffer := some converted.mBuffer }, converted.result.take min)
  else .error .indexOutOfBounds

/-- The input buffer is filled, if there is one. -/
def Preview.fillBuffer (p : Preview) (dst : List Byte) :
    Except Thrown (NV21Convertor × Option (List Byte)) :=
  if 0 ≤ p.bufferIndex then do
    let (mConvertor, input) ← p.mConvertor.convertInto dst p.capacity
    return (mConvertor, some input)
  else return (p.mConvertor, none)

/-- The first part of `onPreviewFrame`: what is put into the input buffer. -/
def Preview.fill (p : Preview) : Except Thrown (NV21Convertor × Option (List Byte)) :=
  match p.data with
  | none => .ok (p.mConvertor, none)
  | some data => do
    let dst ← if p.degree = 0 then rotateNV21Degree90 data p.width p.height else .ok data
    p.fillBuffer dst

/-- One callback after the other, all with the same convertor. -/
def fillAll : NV21Convertor → List Preview → Except Thrown (List (Option (List Byte)))
  | _, [] => .ok []
  | mConvertor, p :: ps => do
    let (mConvertor, input) ← { p with mConvertor }.fill
    let inputs ← fillAll mConvertor ps
    return input :: inputs

theorem Preview.map_fillBuffer (p : Preview) (dst : List Byte) :
    (p.fillBuffer dst).map (fun r ↦ r.2.isSome) =
      if 0 ≤ p.bufferIndex then do
        let converted ← p.mConvertor.convert dst
        if min p.capacity dst.length ≤ converted.result.length then return true
        else .error .indexOutOfBounds
      else return false := by
  have hmin : (if p.capacity < dst.length then p.capacity else dst.length) =
      min p.capacity dst.length := by
    split_ifs <;> omega
  rw [Preview.fillBuffer, NV21Convertor.convertInto, hmin]
  by_cases hindex : 0 ≤ p.bufferIndex
  · rw [if_pos hindex, if_pos hindex]
    rcases p.mConvertor.convert dst with e | converted
    · rfl
    · simp only [bind, Except.bind]
      split_ifs <;> rfl
  · rw [if_neg hindex, if_neg hindex]
    rfl

/-- **The loop over the outputs** is entered if the input buffer has been filled. -/
theorem Preview.queues_eq (p : Preview) : p.queues = p.fill.map fun r ↦ r.2.isSome := by
  rw [Preview.queues, Preview.fill]
  cases p.data with
  | none => rfl
  | some data =>
    by_cases hdegree : p.degree = 0
    · simp only [if_pos hdegree]
      rcases rotateNV21Degree90 data p.width p.height with e | dst
      · rfl
      · exact (p.map_fillBuffer dst).symm
    · simp only [if_neg hdegree]
      exact (p.map_fillBuffer data).symm

/-! ### Pictures -/

/-- The luma of every pixel, and the chroma of every two by two square, by row and column. -/
structure Picture where
  y : ℕ → ℕ → Byte
  u : ℕ → ℕ → Byte
  v : ℕ → ℕ → Byte

/-- The picture that a frame of the camera shows. -/
def Picture.ofNV21 (w h : ℕ) (frame : List Byte) : Picture where
  y i j := frame.getD (i * w + j) 0
  u i j := frame.getD (w * h + i * w + 2 * j + 1) 0
  v i j := frame.getD (w * h + i * w + 2 * j + 0) 0

/-- A picture of height `h`, turned clockwise. -/
def Picture.rotate (picture : Picture) (h : ℕ) : Picture where
  y i j := picture.y (h - 1 - j) i
  u i j := picture.u (h / 2 - 1 - j) i
  v i j := picture.v (h / 2 - 1 - j) i

/-- A frame of the camera: rows of luma, and rows of pairs `V U`. -/
structure IsNV21 (w h : ℕ) (picture : Picture) (frame : List Byte) : Prop where
  length_eq : frame.length = w * h * 3 / 2
  luma : ∀ i < h, ∀ j < w, frame[i * w + j]? = some (picture.y i j)
  v : ∀ i < h / 2, ∀ j < w / 2, frame[w * h + i * w + 2 * j + 0]? = some (picture.v i j)
  u : ∀ i < h / 2, ∀ j < w / 2, frame[w * h + i * w + 2 * j + 1]? = some (picture.u i j)

/-- What the encoder wants: rows of luma, and then the rows of `U` and the rows of `V`, or rows of
pairs `U V`. -/
structure IsEncoded (planar : Bool) (w h : ℕ) (picture : Picture) (input : List Byte) : Prop where
  length_eq : input.length = w * h * 3 / 2
  luma : ∀ i < h, ∀ j < w, input[i * w + j]? = some (picture.y i j)
  u : ∀ i < h / 2, ∀ j < w / 2,
    input[w * h + if planar then i * (w / 2) + j else i * w + 2 * j]? = some (picture.u i j)
  v : ∀ i < h / 2, ∀ j < w / 2,
    input[w * h + if planar then w * h / 4 + (i * (w / 2) + j) else i * w + 2 * j + 1]? =
      some (picture.v i j)

section Pictures

variable {w h : ℕ} {picture : Picture} {frame rotated out : List Byte} {planar : Bool}

/-- **A rotated frame shows the rotated picture.** -/
theorem IsNV21.rotate (hframe : IsNV21 w h picture frame) (hrotated : IsRotated w h frame rotated) :
    IsNV21 h w (picture.rotate h) rotated where
  length_eq := by rw [hrotated.length_eq, Nat.mul_comm h w]
  luma i hi j hj := by
    have hluma := hrotated.luma i hi (h - 1 - j) (by omega)
    rw [show h - 1 - (h - 1 - j) = j by omega] at hluma
    rw [hluma, hframe.luma _ (by omega) i hi]
    rfl
  v i hi j hj := by
    have hchroma := hrotated.chroma (h / 2 - 1 - j) (by omega) i hi 0 (by decide)
    rw [show h / 2 - 1 - (h / 2 - 1 - j) = j by omega] at hchroma
    rw [Nat.mul_comm h w, hchroma, hframe.v _ (by omega) i hi]
    rfl
  u i hi j hj := by
    have hchroma := hrotated.chroma (h / 2 - 1 - j) (by omega) i hi 1 (by decide)
    rw [show h / 2 - 1 - (h / 2 - 1 - j) = j by omega] at hchroma
    rw [Nat.mul_comm h w, hchroma, hframe.u _ (by omega) i hi]
    rfl

/-- The number of a square, counted row by row. -/
theorem square_lt (hw : Even w) (hh : Even h) {i j : ℕ} (hi : i < h / 2) (hj : j < w / 2) :
    i * (w / 2) + j < w * h / 4 := by
  obtain ⟨p, rfl⟩ := hw.two_dvd
  obtain ⟨q, rfl⟩ := hh.two_dvd
  rw [Nat.mul_div_cancel_left _ two_pos] at hi hj ⊢
  have hmul : 2 * p * (2 * q) = 4 * (q * p) := by ring
  rw [hmul, Nat.mul_div_cancel_left _ (by decide : 0 < 4)]
  calc i * p + j < i * p + p := Nat.add_lt_add_left hj _
    _ = (i + 1) * p := by ring
    _ ≤ q * p := Nat.mul_le_mul_right p hi

/-- The pair of a square, counted row by row. -/
theorem two_mul_square (hw : Even w) (i j : ℕ) :
    2 * (i * (w / 2) + j) = i * w + 2 * j := by
  obtain ⟨p, rfl⟩ := hw.two_dvd
  rw [Nat.mul_div_cancel_left _ two_pos]
  ring

/-- **The layout of the encoder shows the same picture.** -/
theorem IsNV21.isEncoded (hw : Even w) (hh : Even h) (hframe : IsNV21 w h picture frame)
    (hlen : out.length = w * h * 3 / 2) (hout : HasLayout planar false (w * h) 0 frame out) :
    IsEncoded planar w h picture out where
  length_eq := hlen
  luma i hi j hj := by
    have hlt : i * w + j < w * h := by
      calc i * w + j < i * w + w := Nat.add_lt_add_left hj _
        _ = w * (i + 1) := by ring
        _ ≤ w * h := Nat.mul_le_mul_left w hi
    rw [hout.luma _ hlt, hframe.luma i hi j hj]
  u i hi j hj := by
    have hfirst := hout.first _ (square_lt hw hh hi hj)
    rw [firstPane, two_mul_square hw, Nat.add_zero] at hfirst
    rw [hfirst, ← Nat.add_assoc]
    exact hframe.u i hi j hj
  v i hi j hj := by
    have hsecond := hout.second _ (square_lt hw hh hi hj)
    rw [secondPane, two_mul_square hw, Nat.add_zero] at hsecond
    rw [hsecond, ← Nat.add_assoc]
    exact hframe.v i hi j hj

end Pictures

/-! ### What the encoder is fed with -/

/-- What the encoder gets for a frame, if there is a buffer for it. -/
def Feeds (d : EncoderDebugger) (r : Resolution) (p : Preview) (input : Option (List Byte)) :
    Prop :=
  (input.isSome ↔ 0 ≤ p.bufferIndex) ∧ ∀ data ∈ p.data, ∀ bytes ∈ input,
    if p.degree = 0 then
      IsEncoded (isPlanar d.mEncoderColorFormat) r.height r.width
        ((Picture.ofNV21 r.width r.height data).rotate r.height) bytes
    else
      IsEncoded (isPlanar d.mEncoderColorFormat) r.width r.height
        (Picture.ofNV21 r.width r.height data) bytes

/-- A frame of the resolution, and a buffer that is large enough for it. -/
structure Preview.Fits (p : Preview) (r : Resolution) : Prop where
  size : p.width = r.width ∧ p.height = r.height
  data : ∃ data, p.data = some data ∧ data.length = r.width * r.height * 3 / 2
  capacity : r.width * r.height * 3 / 2 ≤ p.capacity

section Frames

variable {w h : ℕ} {r : Resolution} {d : EncoderDebugger} {p : Preview} {data : List Byte}

/-- A row of the luma, or of the chroma, is inside its part. -/
theorem row_lt {i j n : ℕ} (hi : i < n) (hj : j < w) : i * w + j < w * n := by
  calc i * w + j < i * w + w := Nat.add_lt_add_left hj _
    _ = w * (i + 1) := by ring
    _ ≤ w * n := Nat.mul_le_mul_left w hi

theorem isNV21_ofNV21 (hw : Even w) (hh : Even h) (hdata : data.length = w * h * 3 / 2) :
    IsNV21 w h (Picture.ofNV21 w h data) data := by
  have hsize := frameSize_eq hw h
  have hhalf := half_mul_eq hw hh
  have hget {i : ℕ} (hi : i < w * h * 3 / 2) : data[i]? = some (data.getD i 0) := by
    rw [List.getD_eq_getElem?_getD, List.getElem?_eq_getElem (hdata ▸ hi)]
    rfl
  have hchroma {i j b : ℕ} (hi : i < h / 2) (hj : j < w / 2) (hb : b < 2) :
      w * h + i * w + 2 * j + b < w * h * 3 / 2 := by
    have hrow := row_lt (j := 2 * j + b) hi (show 2 * j + b < w by omega)
    rw [Nat.mul_comm w] at hrow
    omega
  refine ⟨hdata, fun i hi j hj ↦ hget ?_, fun i hi j hj ↦ hget (hchroma hi hj two_pos),
    fun i hi j hj ↦ hget (hchroma hi hj one_lt_two)⟩
  have hrow := row_lt hi hj
  omega

theorem length_snd_of_swapPairs {n : ℕ} {arrays arrays' : List Byte × List Byte}
    (h : NV21Convertor.swapPairs n arrays = .ok arrays') : arrays'.2.length = arrays.2.length := by
  rw [NV21Convertor.swapPairs] at h
  generalize List.range ((n / 2 + 1) / 2) = steps at h
  induction steps generalizing arrays with
  | nil => rw [← Except.ok.inj h]
  | cons k steps ih =>
    rw [List.foldlM_cons] at h
    obtain ⟨next, hnext, hrest⟩ := bind_eq_ok.1 h
    rw [ih hrest]
    rw [NV21Convertor.swapPair] at hnext
    obtain ⟨x, -, hnext⟩ := bind_eq_ok.1 hnext
    obtain ⟨mBuffer', -, hnext⟩ := bind_eq_ok.1 hnext
    obtain ⟨y, -, hnext⟩ := bind_eq_ok.1 hnext
    obtain ⟨data', hput, hnext⟩ := bind_eq_ok.1 hnext
    obtain ⟨z, -, hnext⟩ := bind_eq_ok.1 hnext
    obtain ⟨data'', hput', hnext⟩ := bind_eq_ok.1 hnext
    rw [← Except.ok.inj hnext]
    exact (length_of_put hput').trans (length_of_put hput)

/-- Without padding, the result is as long as the data. -/
theorem length_of_convert {c : NV21Convertor} {converted : NV21Convertor.Converted}
    (hpadding : c.mYPadding = 0) (h : c.convert data = .ok converted) :
    converted.result.length = data.length := by
  obtain ⟨mBuffer, -, h⟩ := bind_eq_ok.1 h
  by_cases hshape : c.mSliceHeight = c.mHeight ∧ c.mStride = c.mWidth
  · rw [if_pos hshape] at h
    by_cases hplanar : c.mPlanar = true
    · rw [if_pos hplanar] at h
      obtain ⟨planes, -, h⟩ := bind_eq_ok.1 h
      rw [if_pos hpadding] at h
      obtain ⟨out, hout, h⟩ := bind_eq_ok.1 h
      rw [← Except.ok.inj h]
      exact length_arraycopy hout
    · rw [if_neg hplanar] at h
      obtain ⟨arrays, harrays, h⟩ := bind_eq_ok.1 h
      simp only [if_neg (show ¬ 0 < c.mYPadding by omega)] at h
      rw [← Except.ok.inj h]
      rw [NV21Convertor.orderPairs] at harrays
      split_ifs at harrays
      · rw [← Except.ok.inj harrays]
      · exact length_snd_of_swapPairs harrays
  · rw [if_neg hshape] at h
    rw [← Except.ok.inj h]

/-- **A frame that is converted** is put into the buffer as a whole. -/
theorem convertInto_of_forFormat (hd : ForFormat r d) (hwidth : Even r.width)
    (hheight : Even r.height) (mBuffer : Option (List Byte))
    (hdata : data.length = r.width * r.height * 3 / 2) {capacity : ℕ}
    (hcapacity : r.width * r.height * 3 / 2 ≤ capacity) :
    ∃ mBuffer' input, { d.mNV21 with mBuffer := mBuffer }.convertInto data capacity =
        .ok ({ d.mNV21 with mBuffer := mBuffer' }, input) ∧
      input.length = r.width * r.height * 3 / 2 ∧
      HasLayout (isPlanar d.mEncoderColorFormat) false (r.width * r.height) 0 data input := by
  have hn := luma_mod_four hwidth hheight
  have hdata' : data.length = r.width * r.height + r.width * r.height / 2 := by omega
  obtain ⟨converted, hconvert, hlayout⟩ := hd.convert mBuffer hn hdata'
  have hpadding : d.mNV21.mYPadding = 0 := by
    obtain ⟨-, buffer, hmNV21⟩ := hd
    rw [hmNV21, testConvertor_eq]
  have hlen := length_of_convert (c := { d.mNV21 with mBuffer := mBuffer }) hpadding hconvert
  have hwhole : (if capacity < data.length then capacity else data.length) =
      converted.result.length := by
    rw [hlen, if_neg (by omega)]
  refine ⟨some converted.mBuffer, converted.result, ?_, hlen.trans hdata, hlayout⟩
  rw [NV21Convertor.convertInto, hconvert]
  simp only [bind, Except.bind, hwhole, Nat.le_refl, if_true, List.take_length, pure, Except.pure]

/-- **One frame.** -/
theorem fill_feeds (hd : ForFormat r d) (hwidth : Even r.width) (hheight : Even r.height)
    (mBuffer : Option (List Byte)) (hp : p.Fits r) :
    ∃ mBuffer' input, { p with mConvertor := { d.mNV21 with mBuffer := mBuffer } }.fill =
        .ok ({ d.mNV21 with mBuffer := mBuffer' }, input) ∧ Feeds d r p input := by
  obtain ⟨data, hdata, hlen⟩ := hp.data
  have hnv21 := isNV21_ofNV21 hwidth hheight hlen
  -- the buffer is filled with any frame of this size
  have hfill {dst : List Byte} (hdst : dst.length = r.width * r.height * 3 / 2) :
      ∃ mBuffer' input,
        { p with mConvertor := { d.mNV21 with mBuffer := mBuffer } }.fillBuffer dst =
          .ok ({ d.mNV21 with mBuffer := mBuffer' }, input) ∧
        (input.isSome ↔ 0 ≤ p.bufferIndex) ∧ ∀ bytes ∈ input,
          bytes.length = r.width * r.height * 3 / 2 ∧
            HasLayout (isPlanar d.mEncoderColorFormat) false (r.width * r.height) 0 dst bytes := by
    by_cases hindex : 0 ≤ p.bufferIndex
    · obtain ⟨mBuffer', input, hconvert, hlayout⟩ :=
        convertInto_of_forFormat hd hwidth hheight mBuffer hdst hp.capacity
      refine ⟨mBuffer', some input, ?_, by simp [hindex], fun bytes hbytes ↦ ?_⟩
      · rw [Preview.fillBuffer, if_pos hindex, hconvert]
        rfl
      · rwa [← Option.some.inj hbytes]
    · refine ⟨mBuffer, none, ?_, by simp [hindex], fun bytes hbytes ↦ by cases hbytes⟩
      rw [Preview.fillBuffer, if_neg hindex]
      rfl
  by_cases hdegree : p.degree = 0
  · obtain ⟨dst, hrotate, hrotated⟩ := isRotated hwidth hheight hlen.ge hd.1
    obtain ⟨mBuffer', input, hbuffer, hindex, hlayout⟩ := hfill hrotated.length_eq
    refine ⟨mBuffer', input, ?_, hindex, fun data' hdata' bytes hbytes ↦ ?_⟩
    · rw [← hbuffer]
      simp only [Preview.fill, hdata, hdegree, if_true, hp.size.1, hp.size.2, hrotate]
      rfl
    · rw [if_pos hdegree]
      obtain rfl := Option.some.inj (hdata.symm.trans hdata')
      obtain ⟨hbytesLen, hturned⟩ := hlayout bytes hbytes
      rw [Nat.mul_comm r.width] at hbytesLen hturned
      exact (hnv21.rotate hrotated).isEncoded hheight hwidth hbytesLen hturned
  · obtain ⟨mBuffer', input, hbuffer, hindex, hlayout⟩ := hfill hlen
    refine ⟨mBuffer', input, ?_, hindex, fun data' hdata' bytes hbytes ↦ ?_⟩
    · rw [← hbuffer]
      simp only [Preview.fill, hdata, hdegree, if_false]
      rfl
    · rw [if_neg hdegree]
      obtain rfl := Option.some.inj (hdata.symm.trans hdata')
      obtain ⟨hbytesLen, hstraight⟩ := hlayout bytes hbytes
      exact hnv21.isEncoded hwidth hheight hbytesLen hstraight

/-- All frames. -/
theorem fillAll_of_forFormat (hd : ForFormat r d) (hwidth : Even r.width) (hheight : Even r.height)
    {ps : List Preview} (hps : ∀ p ∈ ps, p.Fits r) (mBuffer : Option (List Byte)) :
    ∃ inputs, fillAll { d.mNV21 with mBuffer := mBuffer } ps = .ok inputs ∧
      List.Forall₂ (Feeds d r) ps inputs := by
  induction ps generalizing mBuffer with
  | nil => exact ⟨[], rfl, .nil⟩
  | cons p ps ih =>
    obtain ⟨mBuffer', input, hfill, hfeeds⟩ :=
      fill_feeds hd hwidth hheight mBuffer (hps p List.mem_cons_self)
    obtain ⟨inputs, hrest, hall⟩ := ih (fun p hp ↦ hps p (List.mem_cons_of_mem _ hp)) mBuffer'
    refine ⟨input :: inputs, ?_, .cons hfeeds hall⟩
    rw [fillAll]
    exact bind_eq_ok.2 ⟨_, hfill, bind_eq_ok.2 ⟨_, hrest, rfl⟩⟩

/-- **The encoder is fed with the pictures of the frames**, upright and in the layout of its color
format, with the convertor that any of the calls of `debug` hands out, from a test or from the
preferences, and whatever frames come before. -/
theorem fillAll_feeds {prefs : Preferences} (hprefs : ∀ r, prefs (key r "lastSdk") = none)
    {calls : List (Encoders × Resolution)} {e : Encoders}
    (h : ((e, r), Except.ok d) ∈ calls.zip (debugAll prefs calls)) (hwidth : Even r.width)
    (hheight : Even r.height) {ps : List Preview} (hps : ∀ p ∈ ps, p.Fits r) :
    ∃ inputs, fillAll d.mNV21 ps = .ok inputs ∧ List.Forall₂ (Feeds d r) ps inputs := by
  have htested : Tested prefs := fun r ↦ Or.inl (hprefs r)
  exact fillAll_of_forFormat (htested.debugAll h) hwidth hheight hps d.mNV21.mBuffer

end Frames

/-- A frame with the convertor that is restored for a second call. -/
theorem fillAll_sampleEncoders : ∃ inputs,
    fillAll ⟨2, 2, 2, 2, false, false, 0, none⟩
        [⟨some [0x10#8, 0x20#8, 0x30#8, 0x40#8, 0x50#8, 0x60#8], 0, 2, 2, 0, 6, .fresh, []⟩] =
      .ok inputs ∧
    List.Forall₂ (Feeds ⟨21, "encoder".toList, ⟨2, 2, 2, 2, false, false, 0, none⟩,
        "aA==".toList, "Zw==".toList⟩ ⟨2, 2, by decide⟩)
      [⟨some [0x10#8, 0x20#8, 0x30#8, 0x40#8, 0x50#8, 0x60#8], 0, 2, 2, 0, 6, .fresh, []⟩]
      inputs := by
  let r : Resolution := ⟨2, 2, by decide⟩
  let d : EncoderDebugger :=
    ⟨21, "encoder".toList, ⟨2, 2, 2, 2, false, false, 0, none⟩, "aA==".toList, "Zw==".toList⟩
  have hcalls : debugAll (fun _ ↦ none) [(sampleEncoders, r), (sampleEncoders, r)] =
      [.ok { d with mNV21 := { d.mNV21 with mBuffer := some (0x8f#8 :: List.replicate 5 0) } },
        .ok d] := by decide +kernel
  have hmem : ((sampleEncoders, r), Except.ok d) ∈ [(sampleEncoders, r), (sampleEncoders, r)].zip
      (debugAll (fun _ ↦ none) [(sampleEncoders, r), (sampleEncoders, r)]) := by
    rw [hcalls]
    exact List.mem_cons_of_mem _ List.mem_cons_self
  refine fillAll_feeds (fun _ ↦ rfl) hmem (by decide) (by decide) fun p hp ↦ ?_
  rw [List.mem_singleton.1 hp]
  exact ⟨⟨rfl, rfl⟩, ⟨_, rfl, show 6 = 2 * 2 * 3 / 2 by decide⟩, show 2 * 2 * 3 / 2 ≤ 6 by decide⟩

end DoorIntercom
