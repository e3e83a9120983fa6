import DoorIntercom.Video.Nv21Convertor
import DoorIntercom.Video.Rotate
import DoorIntercom.Video.VideoPacket

/-!
# Preview callbacks

`onPreviewFrame` of `VideoSurfaceView` rotates a frame of the camera, converts it and queues it to
the codec, and then takes the outputs of the codec one after the other: it looks at the first five
bytes for parameter sets and key frames, builds a packet, sends it and releases the buffer. All of
this is in one `try`, so an exception in the loop leaves it with the buffer not released.

There are two: an index outside the array, if the output ends within the start code
(`startsWith_eq`), and an array size that is no `int`. `drain_releasesAll_iff` says that a callback
releases every buffer that it dequeues exactly if it meets neither.

`videoHandler` of `TcpVideo` is set: every `startRecod` comes after an `initSocket`. The calls of
the codec do not fail.
-/

namespace DoorIntercom

open JavaArray FallibleRun

/-! ### The code -/

/-- An output of the codec. -/
structure Output where
  index : ℕ
  outData : List Byte
  deriving DecidableEq, Repr

/-- `outData[0] == pattern[0] && outData[1] == pattern[1] && …`. -/
def startsWith : List Byte → List Byte → Except Thrown Bool
  | _, [] => .ok true
  | [], _ :: _ => .error .indexOutOfBounds
  | b :: bs, p :: ps => if b = p then startsWith bs ps else .ok false

/-- The start code of a NAL unit. -/
def startCode : List Byte := [0x00#8, 0x00#8, 0x00#8, 0x01#8]

/-- `iframeData`: the parameter sets and the key frame. -/
def prependSets (mPpsSps outData : List Byte) : Except Thrown (List Byte) := do
  let iframeData ← new 0 (int (mPpsSps.length + outData.length : ℕ))
  let iframeData ← arraycopy mPpsSps 0 iframeData 0 mPpsSps.length
  arraycopy outData 0 iframeData mPpsSps.length outData.length

/-- The loop body up to the packet: `mPpsSps` and `outData` after it. -/
def classify (mPpsSps outData : List Byte) : Except Thrown (List Byte × List Byte) := do
  if ← startsWith outData (startCode ++ [103#8]) then return (outData, outData)
  else if ← startsWith outData (startCode ++ [101#8]) then
    let iframeData ← prependSets mPpsSps outData
    return (mPpsSps, iframeData)
  else return (mPpsSps, outData)

/-- What a callback leaves: `mPpsSps`, the outputs dequeued, each with the packet sent for it, and
the indexes released. -/
structure Drained where
  mPpsSps : List Byte
  outputs : List (Output × Option (List Byte))
  released : List ℕ
  deriving DecidableEq, Repr

/-- The loop body: `mPpsSps` after it, and the packet that is sent. -/
def handleOutput (mPpsSps outData : List Byte) : List Byte × Except Thrown (List Byte) :=
  match classify mPpsSps outData with
  | .error e => (mPpsSps, .error e)
  | .ok (mPpsSps, outData) => (mPpsSps, buildPacket outData)

/-- The `while` loop, for the outputs that the codec has. -/
def drain : List Output → List Byte → Drained
  | [], mPpsSps => ⟨mPpsSps, [], []⟩
  | output :: outputs, mPpsSps =>
    match handleOutput mPpsSps output.outData with
    | (mPpsSps, .error _) => ⟨mPpsSps, [(output, none)], []⟩
    | (mPpsSps, .ok testdata) =>
      let rest := drain outputs mPpsSps
      ⟨rest.mPpsSps, (output, some testdata) :: rest.outputs, output.index :: rest.released⟩

/-- What a callback finds: the frame, how the display is turned, the size of the preview, the input
buffer, the convertor, and the outputs that the codec has. -/
structure Preview where
  data : Option (List Byte)
  degree : ℕ
  width : ℕ
  height : ℕ
  bufferIndex : ℤ
  capacity : ℕ
  mConvertor : NV21Convertor
  outputs : List Output

/-- The frame is turned, converted and put into the input buffer without an exception, so that the
loop is entered. -/
def Preview.queues (p : Preview) : Except Thrown Bool :=
  match p.data with
  | none => .ok false
  | some data => do
    let dst ← if p.degree = 0 then rotateNV21Degree90 data p.width p.height else .ok data
    if 0 ≤ p.bufferIndex then
      let converted ← p.mConvertor.convert dst
      if min p.capacity dst.length ≤ converted.result.length then return true
      else .error .indexOutOfBounds
    else return false

/-- The outputs that are dequeued if the loop goes to its end. -/
def Preview.delivered (p : Preview) : List Output :=
  match p.queues with
  | .ok true => p.outputs
  | _ => []

/-- `onPreviewFrame`. -/
def onPreviewFrame (p : Preview) (mPpsSps : List Byte) : Drained := drain p.delivered mPpsSps

/-- The callbacks, one after the other. -/
def onPreviewFrames : List Preview → List Byte → List Drained
  | [], _ => []
  | p :: previews, mPpsSps =>
    let drained := onPreviewFrame p mPpsSps
    drained :: onPreviewFrames previews drained.mPpsSps

/-! ### One output -/

section Output

variable {m d bs pattern : List Byte}

/-- **The comparison** with a pattern fails if the array ends within it. -/
theorem startsWith_eq : startsWith d pattern =
    if pattern <+: d then .ok true
    else if d <+: pattern then .error .indexOutOfBounds
    else .ok false := by
  induction pattern generalizing d with
  | nil => simp [startsWith]
  | cons p ps ih =>
    cases d with
    | nil => simp [startsWith]
    | cons b bs =>
      rw [startsWith]
      by_cases hbp : b = p
      · subst hbp
        simp only [if_true, ih, List.cons_prefix_cons, true_and]
      · rw [if_neg hbp, if_neg fun h ↦ hbp (List.cons_prefix_cons.1 h).1.symm,
          if_neg fun h ↦ hbp (List.cons_prefix_cons.1 h).1]

/-- Before the last byte of a pattern. -/
theorem startsWith_concat_eq (b : Byte) : startsWith d (startCode ++ [b]) =
    if startCode ++ [b] <+: d then .ok true
    else if d <+: startCode then .error .indexOutOfBounds
    else .ok false := by
  rw [startsWith_eq]
  by_cases hfull : startCode ++ [b] <+: d
  · rw [if_pos hfull, if_pos hfull]
  · have hiff : d <+: startCode ++ [b] ↔ d <+: startCode := by
      rw [List.prefix_concat_iff]
      exact or_iff_right fun h ↦ hfull (h ▸ List.prefix_refl _)
    simp only [if_neg hfull, hiff]

/-- `mPpsSps` after an output. -/
def remember (m d : List Byte) : List Byte := if startCode ++ [103#8] <+: d then d else m

/-- What is sent for an output. -/
def payload (m d : List Byte) : List Byte := if startCode ++ [101#8] <+: d then m ++ d else d

/-- No exception is thrown for an output: it does not end within the start code, and the size of the
packet is an `int`. -/
def Sendable (m d : List Byte) : Prop := ¬ d <+: startCode ∧ (payload m d).length + 6 < 2 ^ 31

instance : Decidable (Sendable m d) := inferInstanceAs (Decidable (_ ∧ _))

theorem prependSets_eq (h : m.length + d.length < 2 ^ 31) : prependSets m d = .ok (m ++ d) := by
  have hnew : new (0 : Byte) (int (m.length + d.length : ℕ)) =
      .ok (List.replicate (m.length + d.length) 0) := by
    rw [int_of_lt h, new_natCast]
  exact bind_eq_ok.2 ⟨_, hnew, arraycopy_arraycopy List.length_replicate⟩

theorem length_lt_of_prependSets {r : List Byte} (h : prependSets m d = .ok r) :
    m.length + d.length < 2 ^ 31 := by
  obtain ⟨zeros, hzeros, h⟩ := bind_eq_ok.1 h
  obtain ⟨sets, hsets, h⟩ := bind_eq_ok.1 h
  have hle := (arraycopy_eq_ok h).2
  have hlt := int_lt (m.length + d.length : ℕ)
  have hsize := length_of_new hzeros
  rw [length_arraycopy hsets] at hle
  omega

/-- The two headers exclude each other. -/
theorem not_isPrefix_of_isPrefix (h : startCode ++ [103#8] <+: d) :
    ¬ startCode ++ [101#8] <+: d := by
  intro h'
  have heq := (List.prefix_of_prefix_length_le h h' (by decide)).eq_of_length (by decide)
  exact absurd heq (by decide)

/-- An output that ends within the start code is not classified. -/
theorem classify_eq_error (h : d <+: startCode) : classify m d = .error .indexOutOfBounds := by
  have hlong : ∀ b, ¬ startCode ++ [b] <+: d := by
    intro b hb
    have hle := (hb.trans h).length_le
    rw [List.length_append, List.length_singleton] at hle
    omega
  rw [classify, startsWith_concat_eq, if_neg (hlong _), if_pos h]
  rfl

theorem classify_of_not_isPrefix (h : ¬ d <+: startCode) : classify m d =
    if startCode ++ [103#8] <+: d then .ok (d, d)
    else if startCode ++ [101#8] <+: d then (prependSets m d).map (m, ·)
    else .ok (m, d) := by
  rw [classify, startsWith_concat_eq, startsWith_concat_eq, if_neg h]
  by_cases hsets : startCode ++ [103#8] <+: d
  · rw [if_pos hsets, if_pos hsets]
    rfl
  · by_cases hkey : startCode ++ [101#8] <+: d
    · rw [if_neg hsets, if_pos hkey, if_neg hsets, if_pos hkey]
      cases prependSets m d <;> rfl
    · rw [if_neg hsets, if_neg hkey, if_neg hsets, if_neg hkey]
      rfl

theorem handleOutput_of_ok {m' outData : List Byte} (h : classify m d = .ok (m', outData)) :
    handleOutput m d = (m', buildPacket outData) := by
  rw [handleOutput, h]

/-- **The loop body** remembers as `remember` says; what it sends depends on the header. -/
theorem handleOutput_of_not_isPrefix (h : ¬ d <+: startCode) : handleOutput m d =
    (remember m d,
      if startCode ++ [101#8] <+: d then prependSets m d >>= buildPacket else buildPacket d) := by
  have hclass := classify_of_not_isPrefix (m := m) h
  rw [remember]
  by_cases hsets : startCode ++ [103#8] <+: d
  · rw [if_pos hsets] at hclass
    rw [handleOutput_of_ok hclass, if_pos hsets, if_neg (not_isPrefix_of_isPrefix hsets)]
  · rw [if_neg hsets] at hclass ⊢
    by_cases hkey : startCode ++ [101#8] <+: d
    · rw [if_pos hkey] at hclass ⊢
      rcases hprepend : prependSets m d with e | iframeData
      · rw [hprepend] at hclass
        rw [handleOutput, hclass]
        rfl
      · rw [hprepend] at hclass
        rw [ok_bind]
        exact handleOutput_of_ok hclass
    · rw [if_neg hkey] at hclass ⊢
      rw [handleOutput_of_ok hclass]

theorem prependSets_buildPacket_eq (h : (m ++ d).length + 6 < 2 ^ 31) :
    (prependSets m d >>= buildPacket) = .ok (packet (m ++ d)) := by
  have hlen : m.length + d.length < 2 ^ 31 := by
    rw [List.length_append] at h
    omega
  exact bind_eq_ok.2 ⟨_, prependSets_eq hlen, buildPacket_eq h⟩

/-- Where the size is no `int` there is no packet. -/
theorem length_lt_of_prependSets_buildPacket {r : List Byte}
    (h : (prependSets m d >>= buildPacket) = .ok r) : (m ++ d).length + 6 < 2 ^ 31 := by
  obtain ⟨iframeData, hsets, hpacket⟩ := bind_eq_ok.1 h
  obtain rfl := Except.ok.inj ((prependSets_eq (length_lt_of_prependSets hsets)).symm.trans hsets)
  exact buildPacket_isOk_iff.1 ⟨r, hpacket⟩

theorem handleOutput_of_sendable (h : Sendable m d) :
    handleOutput m d = (remember m d, .ok (packet (payload m d))) := by
  obtain ⟨hlong, hfits⟩ := h
  rw [payload] at hfits ⊢
  rw [handleOutput_of_not_isPrefix hlong]
  by_cases hkey : startCode ++ [101#8] <+: d
  · rw [if_pos hkey] at hfits
    rw [if_pos hkey, if_pos hkey, prependSets_buildPacket_eq hfits]
  · rw [if_neg hkey] at hfits
    rw [if_neg hkey, if_neg hkey, buildPacket_eq hfits]

/-- An output that ends within the start code is not remembered. -/
theorem remember_of_isPrefix (h : d <+: startCode) : remember m d = m := by
  refine if_neg fun hsets ↦ ?_
  have hle := (hsets.trans h).length_le
  rw [List.length_append, List.length_singleton] at hle
  omega

/-- **An exception** leaves `mPpsSps` as it should be. -/
theorem handleOutput_of_not_sendable (h : ¬ Sendable m d) :
    ∃ e, handleOutput m d = (remember m d, .error e) := by
  by_cases hshort : d <+: startCode
  · exact ⟨_, by rw [handleOutput, classify_eq_error hshort, remember_of_isPrefix hshort]⟩
  · rw [handleOutput_of_not_isPrefix hshort]
    have hlarge : ¬ (payload m d).length + 6 < 2 ^ 31 := fun hfits ↦ h ⟨hshort, hfits⟩
    rw [payload] at hlarge
    by_cases hkey : startCode ++ [101#8] <+: d
    · rw [if_pos hkey] at hlarge ⊢
      rcases hresult : prependSets m d >>= buildPacket with e | r
      · exact ⟨e, rfl⟩
      · exact absurd (length_lt_of_prependSets_buildPacket hresult) hlarge
    · rw [if_neg hkey] at hlarge ⊢
      rcases hresult : buildPacket d with e | r
      · exact ⟨e, rfl⟩
      · exact absurd (buildPacket_isOk_iff.1 ⟨r, hresult⟩) hlarge

end Output

/-! ### The loop -/

/-- No exception is thrown for any of the outputs. -/
def AllSendable : List Output → List Byte → Prop
  | [], _ => True
  | output :: outputs, m =>
    Sendable m output.outData ∧ AllSendable outputs (remember m output.outData)

/-- `mPpsSps` after all of the outputs. -/
def rememberAll (m : List Byte) (outputs : List Output) : List Byte :=
  outputs.foldl (fun m output ↦ remember m output.outData) m

section Loop

variable {m : List Byte} {output : Output} {outputs outputs' : List Output}

/-- **An iteration** that ends. -/
theorem drain_of_sendable (h : Sendable m output.outData) : drain (output :: outputs) m =
    ⟨(drain outputs (remember m output.outData)).mPpsSps,
      (output, some (packet (payload m output.outData))) ::
        (drain outputs (remember m output.outData)).outputs,
      output.index :: (drain outputs (remember m output.outData)).released⟩ := by
  rw [drain, handleOutput_of_sendable h]

/-- **An iteration** that throws. -/
theorem drain_of_not_sendable (h : ¬ Sendable m output.outData) : drain (output :: outputs) m =
    ⟨remember m output.outData, [(output, none)], []⟩ := by
  obtain ⟨e, he⟩ := handleOutput_of_not_sendable h
  rw [drain, he]

/-- Every buffer that is dequeued has been released once. -/
def Drained.ReleasesAll (drained : Drained) : Prop :=
  drained.released.Perm (drained.outputs.map fun entry ↦ entry.1.index)

/-- **One callback.** -/
theorem drain_releasesAll_iff : (drain outputs m).ReleasesAll ↔ AllSendable outputs m := by
  induction outputs generalizing m with
  | nil => exact iff_of_true List.Perm.nil trivial
  | cons output outputs ih =>
    rw [AllSendable]
    by_cases h : Sendable m output.outData
    · rw [drain_of_sendable h, and_iff_right h, ← ih]
      exact List.perm_cons output.index
    · rw [drain_of_not_sendable h]
      refine iff_of_false (fun hperm ↦ ?_) fun hand ↦ h hand.1
      exact absurd hperm.length_eq (by simp)

theorem mPpsSps_drain (h : AllSendable outputs m) :
    (drain outputs m).mPpsSps = rememberAll m outputs := by
  induction outputs generalizing m with
  | nil => rfl
  | cons output outputs ih =>
    rw [drain_of_sendable h.1]
    exact ih h.2

theorem allSendable_append : AllSendable (outputs ++ outputs') m ↔
    AllSendable outputs m ∧ AllSendable outputs' (rememberAll m outputs) := by
  induction outputs generalizing m with
  | nil => exact (iff_of_eq (true_and _)).symm
  | cons output outputs ih =>
    rw [List.cons_append, AllSendable, AllSendable, ih, and_assoc]
    rfl

/-- **All callbacks.** -/
theorem forall_releasesAll_iff {previews : List Preview} :
    (∀ drained ∈ onPreviewFrames previews m, drained.ReleasesAll) ↔
      AllSendable (previews.flatMap Preview.delivered) m := by
  induction previews generalizing m with
  | nil => exact iff_of_true (fun _ h ↦ absurd h List.not_mem_nil) trivial
  | cons p previews ih =>
    rw [onPreviewFrames, List.forall_mem_cons, List.flatMap_cons, allSendable_append,
      onPreviewFrame, drain_releasesAll_iff]
    refine and_congr_right fun h ↦ ?_
    rw [ih, mPpsSps_drain h]

end Loop

/-- **No output buffer is lost**, over any callbacks from the first one on, if and only if no output
delivered ends within the start code, and the size of every packet is an `int`. -/
theorem releasesAll_iff (previews : List Preview) :
    (∀ drained ∈ onPreviewFrames previews [], drained.ReleasesAll) ↔
      AllSendable (previews.flatMap Preview.delivered) [] :=
  forall_releasesAll_iff

/-- A callback for a frame of two by two, with some outputs. -/
def smallPreview (outputs : List Output) : Preview :=
  ⟨some [0x10#8, 0x20#8, 0x30#8, 0x40#8, 0x50#8, 0x60#8], 90, 2, 2, 0, 6,
    ⟨2, 2, 2, 2, false, false, 0, none⟩, outputs⟩

theorem delivered_smallPreview (outputs : List Output) :
    (smallPreview outputs).delivered = outputs := by
  obtain ⟨r, hr, hlen⟩ : ∃ r, NV21Convertor.convert ⟨2, 2, 2, 2, false, false, 0, none⟩
      [0x10#8, 0x20#8, 0x30#8, 0x40#8, 0x50#8, 0x60#8] = .ok r ∧ r.result.length = 6 :=
    ⟨_, rfl, rfl⟩
  have hqueues : (smallPreview outputs).queues = .ok true := by
    simp [Preview.queues, smallPreview, hr, hlen, bind, Except.bind, pure, Except.pure]
  rw [Preview.delivered, hqueues]
  rfl

/-- **An output of two bytes**: the third one is read, and its buffer 3 is not released. -/
theorem not_releasesAll_two_bytes :
    ¬ ∀ drained ∈ onPreviewFrames [smallPreview [⟨3, [0x00#8, 0x00#8]⟩]] [],
      drained.ReleasesAll := by
  rw [forall_releasesAll_iff, List.flatMap_cons, delivered_smallPreview]
  intro h
  exact h.1.1 (by decide)

end DoorIntercom
