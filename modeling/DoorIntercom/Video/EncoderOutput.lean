import DoorIntercom.Call.Commands
import DoorIntercom.Lib.History
import DoorIntercom.Lib.JavaArray
import DoorIntercom.Video.FrameQueue

/-!
# What the encoder writes

The loop of `AvcEncoder.StartEncoderThread` as a whole: what it queues to the codec, the frames of
`Video.FrameQueue` with their presentation times, and what it takes out of the codec and writes to
the file. The codec is free: it has an output ready or not whenever it is asked, with any flags.

The encoder keeps the last configuration and writes it before each key frame. A key frame that comes
before any configuration follows a `null`: the exception ends the iteration, the frame is not
written, and its buffer is not released. How the outputs are spread over the iterations makes no
difference to the file (`file_of_reach`).
-/

namespace DoorIntercom

open JavaArray

/-! ### The code -/

/-- `BUFFER_FLAG_KEY_FRAME` of `MediaCodec`. -/
abbrev BUFFER_FLAG_KEY_FRAME : ℕ := 1

/-- `BUFFER_FLAG_CODEC_CONFIG` of `MediaCodec`. -/
abbrev BUFFER_FLAG_CODEC_CONFIG : ℕ := 2

/-- An output buffer of the codec, with the flags of its `BufferInfo`. -/
structure CodecOutput where
  flags : ℕ
  outData : List Byte
  deriving DecidableEq, Repr

/-- `computePresentationTime`, in `long`s. -/
def computePresentationTime (m_framerate : ℤ) (frameIndex : ℕ) : ℤ :=
  long (132 + (long (frameIndex * 1000000)).tdiv m_framerate)

/-- The encoder and the camera thread. `times` holds the presentation times of the frames queued,
`draining` whether the encoder thread is in its inner loop, `taken` the outputs that it has taken
out of the codec, and `unreleased` those that it has not given back. -/
structure AvcEncoder where
  frames : FrameQueue
  generateIndex : ℕ
  times : List ℤ
  draining : Bool
  configbyte : Option (List Byte)
  outputStream : List Byte
  taken : List CodecOutput
  unreleased : List CodecOutput
  deriving DecidableEq, Repr

/-- A statement of the camera thread, one of the encoder thread outside its inner loop, and
`dequeueOutputBuffer` with what follows. -/
inductive AvcEvent
  | camera
  | encoder
  | output (o : Option CodecOutput)
  deriving DecidableEq, Repr

namespace AvcEncoder

/-- Before the first iteration. -/
def idle : AvcEncoder where
  frames := frameQueue.init
  generateIndex := 0
  times := []
  draining := false
  configbyte := none
  outputStream := []
  taken := []
  unreleased := []

/-- A statement of the encoder thread outside its inner loop. A frame is queued with its time, if
the division does not throw. -/
def runEncoder (m_framerate : ℤ) (s : AvcEncoder) : AvcEncoder :=
  if s.frames.encoder = .encode ∧ s.frames.input.isSome then
    if m_framerate = 0 then { s with frames := { s.frames with encoder := .head } }
    else
      { s with
        frames := s.frames.encoderLoop
        times := s.times ++ [computePresentationTime m_framerate s.generateIndex]
        generateIndex := s.generateIndex + 1
        draining := true }
  else { s with frames := s.frames.encoderLoop }

/-- The body of the inner loop. `configbyte.length` of `null` throws, and the iteration ends. -/
def takeOutput (s : AvcEncoder) (o : CodecOutput) : AvcEncoder :=
  if o.flags = BUFFER_FLAG_CODEC_CONFIG then
    { s with configbyte := some o.outData, taken := s.taken ++ [o] }
  else if o.flags = BUFFER_FLAG_KEY_FRAME then
    match s.configbyte with
    | some configbyte =>
      { s with
        outputStream := s.outputStream ++ (configbyte ++ o.outData)
        taken := s.taken ++ [o] }
    | none =>
      { s with
        draining := false
        taken := s.taken ++ [o]
        unreleased := s.unreleased ++ [o] }
  else { s with outputStream := s.outputStream ++ o.outData, taken := s.taken ++ [o] }

/-- The step of an event. -/
def step (m_framerate : ℤ) (s : AvcEncoder) : AvcEvent → Option AvcEncoder
  | .camera => some { s with frames := s.frames.putYUVData }
  | .encoder => if s.draining then none else some (s.runEncoder m_framerate)
  | .output o =>
    if s.draining then some (o.elim { s with draining := false } s.takeOutput) else none

end AvcEncoder

/-- The encoder for a frame rate. -/
def avcEncoder (m_framerate : ℤ) : TransitionSystem AvcEncoder AvcEvent where
  init := .idle
  step := AvcEncoder.step m_framerate

/-! ### What a file is meant to hold -/

/-- The last configuration of the outputs. -/
def lastConfig (taken : List CodecOutput) : Option (List Byte) :=
  ((taken.filter (·.flags = BUFFER_FLAG_CODEC_CONFIG)).getLast?).map CodecOutput.outData

/-- A key frame before the first configuration. -/
def CodecOutput.isLost (before : List CodecOutput) (o : CodecOutput) : Bool :=
  o.flags = BUFFER_FLAG_KEY_FRAME ∧ lastConfig before = none

/-- What belongs into the file for an output, in view of those before it. -/
def CodecOutput.unit (before : List CodecOutput) (o : CodecOutput) : List Byte :=
  if o.flags = BUFFER_FLAG_CODEC_CONFIG then []
  else if o.flags = BUFFER_FLAG_KEY_FRAME then (lastConfig before).elim [] (· ++ o.outData)
  else o.outData

namespace AvcEncoder

/-- The file and the buffers are those of the outputs taken. -/
structure Written (s : AvcEncoder) : Prop where
  configbyte : s.configbyte = lastConfig s.taken
  outputStream : s.outputStream = (withBefore s.taken).flatMap fun p ↦ p.2.unit p.1
  unreleased : s.unreleased = ((withBefore s.taken).filter fun p ↦ p.2.isLost p.1).map Prod.snd

/-- The frames queued have been counted, and each has its time. -/
structure Timed (m_framerate : ℤ) (s : AvcEncoder) : Prop where
  generateIndex : s.generateIndex = s.frames.queued.length
  times : s.times = (List.range s.generateIndex).map (computePresentationTime m_framerate)

variable {s s' : AvcEncoder} {m_framerate : ℤ}

/-! ### The file -/

theorem lastConfig_concat (taken : List CodecOutput) (o : CodecOutput) :
    lastConfig (taken ++ [o]) =
      if o.flags = BUFFER_FLAG_CODEC_CONFIG then some o.outData else lastConfig taken := by
  rw [lastConfig, List.filter_append]
  split_ifs with ho <;> simp [ho, lastConfig]

/-- A step that takes no output. -/
theorem Written.congr (h : s.Written) (hconfig : s'.configbyte = s.configbyte)
    (hstream : s'.outputStream = s.outputStream) (htaken : s'.taken = s.taken)
    (hunreleased : s'.unreleased = s.unreleased) : s'.Written where
  configbyte := by rw [hconfig, htaken, h.configbyte]
  outputStream := by rw [hstream, htaken, h.outputStream]
  unreleased := by rw [hunreleased, htaken, h.unreleased]

/-- **The body of the inner loop.** -/
theorem Written.takeOutput (h : s.Written) (o : CodecOutput) : (s.takeOutput o).Written := by
  -- what is kept, written and held back for the output decides
  have hconcat (s' : AvcEncoder) (htaken : s'.taken = s.taken ++ [o])
      (hconfig : s'.configbyte = lastConfig (s.taken ++ [o]))
      (hstream : s'.outputStream = s.outputStream ++ o.unit s.taken)
      (hunreleased : s'.unreleased = s.unreleased ++ if o.isLost s.taken then [o] else []) :
      s'.Written := by
    refine ⟨by rw [hconfig, htaken], ?_, ?_⟩
    · rw [hstream, htaken, withBefore_concat, List.flatMap_append, ← h.outputStream]
      simp
    · rw [hunreleased, htaken, withBefore_concat, List.filter_append, List.map_append,
        ← h.unreleased]
      split_ifs with hlost <;> simp [hlost]
  rw [AvcEncoder.takeOutput]
  split_ifs with hconfig hkey
  · refine hconcat _ rfl ?_ ?_ ?_
    · rw [lastConfig_concat, if_pos hconfig]
    · rw [CodecOutput.unit, if_pos hconfig]
      exact (List.append_nil _).symm
    · simp [CodecOutput.isLost, hconfig]
  · split
    next configbyte hsome =>
      rw [h.configbyte] at hsome
      refine hconcat _ rfl ?_ ?_ ?_
      · rw [lastConfig_concat, if_neg hconfig, ← h.configbyte]
      · rw [CodecOutput.unit, if_neg hconfig, if_pos hkey, hsome]
        rfl
      · simp [CodecOutput.isLost, hsome]
    next hnone =>
      rw [h.configbyte] at hnone
      refine hconcat _ rfl ?_ ?_ ?_
      · rw [lastConfig_concat, if_neg hconfig, ← h.configbyte]
      · rw [CodecOutput.unit, if_neg hconfig, if_pos hkey, hnone]
        exact (List.append_nil _).symm
      · simp [CodecOutput.isLost, hkey, hnone]
  · refine hconcat _ rfl ?_ ?_ ?_
    · rw [lastConfig_concat, if_neg hconfig, ← h.configbyte]
    · rw [CodecOutput.unit, if_neg hconfig, if_neg hkey]
    · simp [CodecOutput.isLost, hkey]

theorem Written.runEncoder (h : s.Written) : (s.runEncoder m_framerate).Written := by
  rw [AvcEncoder.runEncoder]
  split_ifs <;> exact h.congr rfl rfl rfl rfl

theorem Written.step {e : AvcEvent} (h : s.Written)
    (hstep : (avcEncoder m_framerate).step s e = some s') : s'.Written := by
  change s.step m_framerate e = some s' at hstep
  cases e with
  | camera =>
    cases hstep
    exact h.congr rfl rfl rfl rfl
  | encoder =>
    rw [AvcEncoder.step] at hstep
    split_ifs at hstep
    cases hstep
    exact h.runEncoder
  | output o =>
    rw [AvcEncoder.step] at hstep
    split_ifs at hstep
    cases hstep
    cases o with
    | none => exact h.congr rfl rfl rfl rfl
    | some o => exact h.takeOutput o

theorem lastConfig_ne_none {taken : List CodecOutput} {o : CodecOutput} (hmem : o ∈ taken)
    (ho : o.flags = BUFFER_FLAG_CODEC_CONFIG) : lastConfig taken ≠ none := by
  rw [lastConfig, ne_eq, Option.map_eq_none_iff, List.getLast?_eq_none_iff]
  exact List.ne_nil_of_mem (List.mem_filter.2 ⟨hmem, decide_eq_true ho⟩)

/-- Behind a configuration no key frame is lost. -/
theorem filter_isLost_eq_nil {taken : List CodecOutput}
    (hfirst : ∀ o ∈ taken.head?, o.flags = BUFFER_FLAG_CODEC_CONFIG) :
    (withBefore taken).filter (fun p ↦ p.2.isLost p.1) = [] := by
  rw [List.filter_eq_nil_iff]
  rintro ⟨before, o⟩ hmem hlost
  obtain ⟨after, rfl⟩ := mem_withBefore.1 hmem
  obtain ⟨hkey, hnone⟩ := of_decide_eq_true hlost
  cases before with
  | nil =>
    have hconfig := hfirst o rfl
    rw [hkey] at hconfig
    exact absurd hconfig (by decide)
  | cons c before => exact lastConfig_ne_none List.mem_cons_self (hfirst c rfl) hnone

/-! ### The frames and their times -/

theorem queued_encoderLoop (s : FrameQueue) : s.encoderLoop.queued =
    s.queued ++ if s.encoder = .encode then s.input.toList else [] := by
  rw [FrameQueue.encoderLoop]
  cases s.encoder <;> simp

theorem queued_putYUVData (s : FrameQueue) : s.putYUVData.queued = s.queued := by
  rw [FrameQueue.putYUVData]
  cases s.camera with
  | idle | poll => rfl
  | add =>
    simp only
    split_ifs <;> rfl

theorem takeOutput_frames (s : AvcEncoder) (o : CodecOutput) :
    (s.takeOutput o).frames = s.frames ∧ (s.takeOutput o).times = s.times ∧
      (s.takeOutput o).generateIndex = s.generateIndex := by
  rw [takeOutput]
  split_ifs
  · exact ⟨rfl, rfl, rfl⟩
  · cases s.configbyte <;> exact ⟨rfl, rfl, rfl⟩
  · exact ⟨rfl, rfl, rfl⟩

theorem Timed.congr (h : s.Timed m_framerate) (hqueued : s'.frames.queued = s.frames.queued)
    (htimes : s'.times = s.times) (hindex : s'.generateIndex = s.generateIndex) :
    s'.Timed m_framerate where
  generateIndex := by rw [hindex, hqueued, h.generateIndex]
  times := by rw [htimes, hindex, h.times]

theorem Timed.runEncoder (h : s.Timed m_framerate) :
    (s.runEncoder m_framerate).Timed m_framerate := by
  rw [AvcEncoder.runEncoder]
  split_ifs with hencode
  · exact h.congr rfl rfl rfl
  · obtain ⟨input, hinput⟩ := Option.isSome_iff_exists.1 hencode.2
    refine ⟨?_, ?_⟩
    · simp [queued_encoderLoop, hencode.1, hinput, h.generateIndex]
    · simp [List.range_succ, h.times]
  · refine h.congr ?_ rfl rfl
    change s.frames.encoderLoop.queued = s.frames.queued
    rw [queued_encoderLoop]
    split_ifs with hpc
    · rw [Option.not_isSome_iff_eq_none.1 fun hsome ↦ hencode ⟨hpc, hsome⟩]
      exact List.append_nil _
    · exact List.append_nil _

theorem Timed.step {e : AvcEvent} (h : s.Timed m_framerate)
    (hstep : (avcEncoder m_framerate).step s e = some s') : s'.Timed m_framerate := by
  change s.step m_framerate e = some s' at hstep
  cases e with
  | camera =>
    cases hstep
    exact h.congr (queued_putYUVData s.frames) rfl rfl
  | encoder =>
    rw [AvcEncoder.step] at hstep
    split_ifs at hstep
    cases hstep
    exact h.runEncoder
  | output o =>
    rw [AvcEncoder.step] at hstep
    split_ifs at hstep
    cases hstep
    cases o with
    | none => exact h.congr rfl rfl rfl
    | some o =>
      obtain ⟨hframes, htimes, hindex⟩ := takeOutput_frames s o
      exact h.congr (congrArg FrameQueue.queued hframes) htimes hindex

/-- **Each step is one of the queue**, or it leaves the queue as it is. -/
theorem reach_frames_step {e : AvcEvent} (hrate : m_framerate ≠ 0)
    (h : frameQueue.Reach s.frames) (hstep : (avcEncoder m_framerate).step s e = some s') :
    frameQueue.Reach s'.frames := by
  change s.step m_framerate e = some s' at hstep
  cases e with
  | camera =>
    cases hstep
    exact h.step (a := .camera) rfl
  | encoder =>
    rw [AvcEncoder.step] at hstep
    split_ifs at hstep
    cases hstep
    have hframes : (s.runEncoder m_framerate).frames = s.frames.encoderLoop := by
      rw [AvcEncoder.runEncoder]
      split_ifs <;> rfl
    rw [hframes]
    exact h.step (a := .encoder) rfl
  | output o =>
    rw [AvcEncoder.step] at hstep
    split_ifs at hstep
    cases hstep
    cases o with
    | none => exact h
    | some o => exact (takeOutput_frames s o).1.symm ▸ h

end AvcEncoder

/-- Where no `long` overflows. -/
theorem computePresentationTime_eq {m_framerate : ℤ} {frameIndex : ℕ} (hrate : 0 < m_framerate)
    (hlong : (frameIndex * 1000000 + 132 : ℤ) < 2 ^ 63) :
    computePresentationTime m_framerate frameIndex =
      132 + frameIndex * 1000000 / m_framerate := by
  have hpos : (0 : ℤ) ≤ frameIndex * 1000000 := by omega
  have hdiv : (frameIndex * 1000000 : ℤ) / m_framerate ≤ frameIndex * 1000000 :=
    Int.ediv_le_self _ hpos
  have hdivpos : 0 ≤ (frameIndex * 1000000 : ℤ) / m_framerate :=
    Int.ediv_nonneg hpos (Int.le_of_lt hrate)
  have hinner : long (frameIndex * 1000000) = frameIndex * 1000000 :=
    long_eq_self (by omega) (by omega)
  rw [computePresentationTime, hinner, Int.tdiv_eq_ediv_of_nonneg hpos]
  exact long_eq_self (by omega) (by omega)

/-- A later frame has a later time, up to a million frames a second. -/
theorem computePresentationTime_lt {m_framerate : ℤ} {k n : ℕ} (hrate : 0 < m_framerate)
    (hrate' : m_framerate ≤ 1000000) (hkn : k < n) (hlong : (n * 1000000 + 132 : ℤ) < 2 ^ 63) :
    computePresentationTime m_framerate k < computePresentationTime m_framerate n := by
  rw [computePresentationTime_eq hrate (by omega), computePresentationTime_eq hrate hlong]
  have hstep : (k * 1000000 + 1 * m_framerate : ℤ) / m_framerate ≤
      n * 1000000 / m_framerate := Int.ediv_le_ediv hrate (by omega)
  rw [Int.add_mul_ediv_right _ _ (Int.ne_of_gt hrate)] at hstep
  omega

/-- **The file.** In every run, whatever the codec puts out and however its outputs are spread over
the iterations, the file holds the outputs in order, the configurations left out and each key frame
behind the last configuration before it. Nothing is lost, and no buffer kept, but the key frames
before the first configuration; if the codec begins with one, there are none. -/
theorem file_of_reach {m_framerate : ℤ} {s : AvcEncoder} (h : (avcEncoder m_framerate).Reach s) :
    s.outputStream = (withBefore s.taken).flatMap (fun p ↦ p.2.unit p.1) ∧
      s.unreleased = ((withBefore s.taken).filter fun p ↦ p.2.isLost p.1).map Prod.snd ∧
      ((∀ o ∈ s.taken.head?, o.flags = BUFFER_FLAG_CODEC_CONFIG) → s.unreleased = []) := by
  have hwritten : s.Written :=
    h.invariant ⟨rfl, rfl, rfl⟩ fun _ _ _ hs hstep ↦ hs.step hstep
  refine ⟨hwritten.outputStream, hwritten.unreleased, fun hfirst ↦ ?_⟩
  rw [hwritten.unreleased, AvcEncoder.filter_isLost_eq_nil hfirst]
  rfl

/-- A key frame, in the iteration after the one that brings the configuration. -/
theorem file_key_frame : ∃ s : AvcEncoder, (avcEncoder 10).Reach s ∧
    s.outputStream = [1, 2, 3] ∧
    s.outputStream = (withBefore s.taken).flatMap (fun p ↦ p.2.unit p.1) := by
  obtain ⟨s, hs, hfile⟩ : ∃ s : AvcEncoder, (avcEncoder 10).exec .idle [.camera, .camera, .encoder,
      .encoder, .encoder, .output (some ⟨2, [1, 2]⟩), .output none, .encoder, .encoder,
      .output (some ⟨1, [3]⟩)] = some s ∧ s.outputStream = [1, 2, 3] := ⟨_, rfl, rfl⟩
  have hinit : (avcEncoder 10).Reach .idle := .init
  have hreach := hinit.exec hs
  exact ⟨s, hreach, hfile, (file_of_reach hreach).1⟩

/-- **The presentation times.** The encoder and the camera run as in `frameQueue`, and every frame
that is queued has its own time, later than those of the frames before it. -/
theorem times_of_reach {m_framerate : ℤ} {s : AvcEncoder} (hrate : 0 < m_framerate)
    (hrate' : m_framerate ≤ 1000000) (h : (avcEncoder m_framerate).Reach s)
    (hlong : (s.generateIndex * 1000000 + 132 : ℤ) < 2 ^ 63) :
    frameQueue.Reach s.frames ∧ s.times.length = s.frames.queued.length ∧
      s.times.Pairwise (· < ·) := by
  have hframes : frameQueue.Reach s.frames := by
    have hinit : frameQueue.Reach frameQueue.init := .init
    refine h.invariant (I := fun s ↦ frameQueue.Reach s.frames) hinit fun _ _ _ hs hstep ↦ ?_
    exact AvcEncoder.reach_frames_step (Int.ne_of_gt hrate) hs hstep
  have htimed : s.Timed m_framerate :=
    h.invariant ⟨rfl, rfl⟩ fun _ _ _ hs hstep ↦ hs.step hstep
  refine ⟨hframes, ?_, ?_⟩
  · rw [htimed.times, List.length_map, List.length_range, htimed.generateIndex]
  · rw [htimed.times, List.pairwise_map]
    refine List.pairwise_lt_range.imp_of_mem fun {k n} _ hn hkn ↦ ?_
    have hn := List.mem_range.1 hn
    exact computePresentationTime_lt hrate hrate' hkn (by omega)

/-- Two frames, ten a second. -/
theorem times_two_frames : ∃ s : AvcEncoder, (avcEncoder 10).Reach s ∧
    s.times.length = 2 ∧ s.times.Pairwise (· < ·) := by
  obtain ⟨s, hs, htimes, hindex⟩ : ∃ s : AvcEncoder, (avcEncoder 10).exec .idle [.camera, .camera,
      .encoder, .encoder, .encoder, .output none, .camera, .camera, .encoder, .encoder,
      .encoder] = some s ∧ s.times.length = 2 ∧ s.generateIndex = 2 := ⟨_, rfl, rfl, rfl⟩
  have hinit : (avcEncoder 10).Reach .idle := .init
  have hreach := hinit.exec hs
  refine ⟨s, hreach, htimes, (times_of_reach (by decide) (by decide) hreach ?_).2.2⟩
  rw [hindex]
  decide

end DoorIntercom
