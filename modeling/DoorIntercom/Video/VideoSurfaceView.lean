import DoorIntercom.Lib.Transition
import Mathlib.Data.List.Count

/-!
# The video view and its camera

`VideoSurfaceView` opens a camera when its surface is created and releases it when the surface is
destroyed or the activity is. In between, `startRecod` and `stopRecord` start and stop the preview
and its callback. All of this runs on the main thread, one after the other, and so does
`onPreviewFrame`, to which the camera posts its frames (what it does with a frame is in
`Video.PreviewFrame`, and what the socket does in `Video.VideoStream`). A surface is not created
again before it is destroyed, and not after the activity is.

A camera fills a callback buffer for a frame and posts it while it previews with a callback, if a
buffer is left. The frame goes to the callback that the camera has when the main thread takes it,
also after the camera has been released. `setPreviewCallback` and `setPreviewCallbackWithBuffer`
with `null` take the callback and the buffers away. A method of a released camera throws.

Every camera that is opened is released once, unless it is the one in the field, and a camera that
records does not run out of buffers (`cameras_of_reach`). The field `camera`, which `stopCamera`
looks at, is never set; so only `stopRecord` takes the callback away before the camera is released,
and without it a frame that is still waiting then finds a `null` (`previewFrame_of_reachIf`): in
`mMediaCodec` after `closeVideo`, and in `mCamera` after `surfaceDestroyed`.
-/

namespace DoorIntercom

/-- A camera that has been opened: how often it has been released, whether it previews, whether
`previewCallback` is set, and how many callback buffers it can fill. -/
structure Camera where
  released : ℕ
  previews : Bool
  callback : Bool
  buffers : ℕ
  deriving DecidableEq, Repr

namespace Camera

def opened : Camera := ⟨0, false, false, 0⟩

def release (c : Camera) : Camera := { c with released := c.released + 1, previews := false }

def startPreview (c : Camera) : Camera := { c with previews := true }

def stopPreview (c : Camera) : Camera := { c with previews := false }

def addCallbackBuffer (c : Camera) : Camera := { c with buffers := c.buffers + 1 }

/-- `setPreviewCallbackWithBuffer(previewCallback)` -/
def setCallback (c : Camera) : Camera := { c with callback := true }

/-- `setPreviewCallback(null)`, and `setPreviewCallbackWithBuffer(null)` -/
def clearCallback (c : Camera) : Camera := { c with callback := false, buffers := 0 }

/-- A frame is posted in a callback buffer. -/
def fillBuffer (c : Camera) : Camera := { c with buffers := c.buffers - 1 }

/-- The camera can post a frame. -/
def canPost (c : Camera) : Bool := c.released = 0 && c.previews && c.callback && 0 < c.buffers

end Camera

/-- How `createCamera` goes: `Camera.open` throws, or the statements behind it do, or none. -/
inductive OpenOutcome
  | openThrows
  | setupThrows
  | opens
  deriving DecidableEq, Repr

/-- The view. Cameras are named by the order in which they were opened; `frames` are those that the
main thread has not taken yet, each with its camera. -/
structure VideoSurfaceView where
  cameras : List Camera
  mCamera : Option ℕ
  camera : Option ℕ
  mMediaCodec : Bool
  surface : Bool
  destroyed : Bool
  frames : List ℕ
  crashed : Bool
  deriving DecidableEq, Repr

/-- What can happen next. -/
inductive ViewEvent
  | surfaceCreated (o : OpenOutcome)
  | surfaceDestroyed
  | startRecod
  | stopRecord
  | closeVideo
  | postFrame (k : ℕ)
  | handleFrame
  deriving DecidableEq, Repr

/-- The surface is destroyed, or the activity is. -/
def ViewEvent.Closes (e : ViewEvent) : Prop := e = .surfaceDestroyed ∨ e = .closeVideo

instance (e : ViewEvent) : Decidable e.Closes := inferInstanceAs (Decidable (_ ∨ _))

namespace VideoSurfaceView

/-- A view whose codec has been created. -/
def created : VideoSurfaceView := ⟨[], none, none, true, false, false, [], false⟩

/-- A `null` is followed, or a method throws. -/
def crash (s : VideoSurfaceView) : VideoSurfaceView := { s with crashed := true }

/-- A method of a camera. -/
def call (s : VideoSurfaceView) (k : ℕ) (method : Camera → Camera) : VideoSurfaceView :=
  if s.cameras[k]?.any fun c ↦ c.released = 0 then
    { s with cameras := s.cameras.modify k method }
  else s.crash

/-- `stopCamera` -/
def stopCamera (s : VideoSurfaceView) : VideoSurfaceView :=
  match s.camera with
  | some k =>
    { ((s.call k Camera.clearCallback).call k Camera.stopPreview).call k Camera.release with
      camera := none }
  | none => s

/-- `destroyCamera` -/
def destroyCamera (s : VideoSurfaceView) : VideoSurfaceView :=
  match s.mCamera with
  | some k => { (s.call k Camera.stopPreview).call k Camera.release with mCamera := none }
  | none => s

/-- `createCamera`, which destroys the camera again if it cannot be set up. -/
def createCamera (s : VideoSurfaceView) (o : OpenOutcome) : VideoSurfaceView :=
  let s := s.mCamera.elim s fun k ↦ { s.call k Camera.release with mCamera := none }
  let opened : VideoSurfaceView :=
    { s with cameras := s.cameras ++ [.opened], mCamera := some s.cameras.length }
  match o with
  | .openThrows => s.destroyCamera
  | .setupThrows => opened.destroyCamera
  | .opens => opened

/-- `startRecod` -/
def startRecod (s : VideoSurfaceView) : VideoSurfaceView :=
  match s.mCamera with
  | some k =>
    ((s.call k Camera.startPreview).call k Camera.addCallbackBuffer).call k Camera.setCallback
  | none => s

/-- `stopRecord` -/
def stopRecord (s : VideoSurfaceView) : VideoSurfaceView :=
  match s.mCamera with
  | some k => (s.call k Camera.clearCallback).call k Camera.stopPreview
  | none => s

/-- `closeVideo` -/
def closeVideo (s : VideoSurfaceView) : VideoSurfaceView :=
  let s := s.stopCamera.destroyCamera
  if s.mMediaCodec then { s with mMediaCodec := false } else s.crash

/-- `onPreviewFrame`: it asks the codec for its buffers and the camera for its size, and gives a
buffer back in the end. -/
def onPreviewFrame (s : VideoSurfaceView) : VideoSurfaceView :=
  if s.mMediaCodec then
    match s.mCamera with
    | some k => s.call k Camera.addCallbackBuffer
    | none => s.crash
  else s.crash

/-- A frame of the camera is given to the callback. -/
def hands (s : VideoSurfaceView) (k : ℕ) : Bool := s.cameras[k]?.any Camera.callback

/-- What an event does. -/
def next (s : VideoSurfaceView) : ViewEvent → Option VideoSurfaceView
  | .surfaceCreated o =>
    if s.surface || s.destroyed then none else some ({ s with surface := true }.createCamera o)
  | .surfaceDestroyed =>
    if s.surface then some { s.stopCamera.destroyCamera with surface := false } else none
  | .startRecod => some s.startRecod
  | .stopRecord => some s.stopRecord
  | .closeVideo => if s.destroyed then none else some { s.closeVideo with destroyed := true }
  | .postFrame k =>
    if s.cameras[k]?.any Camera.canPost then
      some { s with cameras := s.cameras.modify k Camera.fillBuffer, frames := s.frames ++ [k] }
    else none
  | .handleFrame =>
    match s.frames with
    | k :: frames =>
      -- The callback is read now, not when the frame was posted.
      some (if s.hands k then { s with frames }.onPreviewFrame else { s with frames })
    | [] => none

/-- The step of an event. Nothing happens any more after a crash. -/
def step (s : VideoSurfaceView) (e : ViewEvent) : Option VideoSurfaceView :=
  if s.crashed then none else s.next e

theorem step_eq_some {s s' : VideoSurfaceView} {e : ViewEvent} :
    s.step e = some s' ↔ s.crashed = false ∧ s.next e = some s' := by
  cases hcrashed : s.crashed <;> simp [step, hcrashed]

end VideoSurfaceView

/-- The view, from its creation on. -/
def videoSurfaceView : TransitionSystem VideoSurfaceView ViewEvent where
  init := .created
  step := VideoSurfaceView.step

/-! ### The cameras -/

namespace VideoSurfaceView

/-- Every camera but the one in the field has been released, once. The one in the field has a buffer
as long as it has the callback, or one of its frames waits. -/
structure Ledger (s : VideoSurfaceView) : Prop where
  camera : s.camera = none
  held : ∀ k, s.mCamera = some k → ∃ c, s.cameras[k]? = some c ∧ c.released = 0
  released : ∀ k c, s.cameras[k]? = some c → s.mCamera ≠ some k → c.released = 1
  surface : s.mCamera.isSome → s.surface = true ∧ s.mMediaCodec = true
  codec : s.destroyed = false → s.mMediaCodec = true
  buffers : ∀ k c, s.mCamera = some k → s.cameras[k]? = some c → c.callback = true →
    0 < c.buffers + s.frames.count k

/-- The frames that wait are the same, and so is the callback that each of them will be given to. -/
structure SameFrames (s s' : VideoSurfaceView) : Prop where
  crashed : s'.crashed = s.crashed
  frames : s'.frames = s.frames
  hands : ∀ k, s'.hands k = s.hands k

section Steps

variable {s s' s'' : VideoSurfaceView} {e : ViewEvent} {k j : ℕ} {c c' : Camera}
  {f g : Camera → Camera} {frames : List ℕ}

theorem ledger_created : created.Ledger where
  camera := rfl
  held k hk := by cases hk
  released k c hc := by cases hc
  surface hsome := by cases hsome
  codec _ := rfl
  buffers k c hk := by cases hk

/-- The other cameras stay. -/
theorem getElem?_modify_eq_some (h : (s.cameras.modify k f)[j]? = some c') :
    ∃ c, s.cameras[j]? = some c ∧ c' = if k = j then f c else c := by
  rw [List.getElem?_modify] at h
  obtain ⟨c, hc, rfl⟩ := Option.map_eq_some_iff.1 h
  exact ⟨c, hc, rfl⟩

/-- A method of a camera that is open. -/
theorem call_eq (hc : s.cameras[k]? = some c) (hopen : c.released = 0) :
    s.call k f = { s with cameras := s.cameras.modify k f } := by
  rw [call, hc, Option.any_some, if_pos (by simpa using hopen)]

/-- Two methods, one after the other. -/
theorem call_call_eq (hc : s.cameras[k]? = some c) (hopen : c.released = 0)
    (hf : (f c).released = 0) :
    (s.call k f).call k g = { s with cameras := s.cameras.modify k (g ∘ f) } := by
  have hc' : ({ s with cameras := s.cameras.modify k f } : VideoSurfaceView).cameras[k]? =
      some (f c) := by
    rw [List.getElem?_modify_eq, hc]
    rfl
  rw [call_eq hc hopen, call_eq hc' hf]
  simp only [List.modify_modify_eq]

theorem Ledger.stopCamera_eq (h : s.Ledger) : s.stopCamera = s := by
  rw [stopCamera, h.camera]

/-- **`destroyCamera`** releases the camera in the field. -/
theorem Ledger.destroyCamera_eq (h : s.Ledger) (hk : s.mCamera = some k) :
    s.destroyCamera =
      { s with
        cameras := s.cameras.modify k (Camera.release ∘ Camera.stopPreview)
        mCamera := none } := by
  obtain ⟨c, hc, hopen⟩ := h.held k hk
  simp only [destroyCamera, hk]
  rw [call_call_eq hc hopen hopen]

/-- **`startRecod`** starts the preview with a callback and a buffer. -/
theorem Ledger.startRecod_eq (h : s.Ledger) (hk : s.mCamera = some k) :
    s.startRecod =
      { s with
        cameras := s.cameras.modify k
          (Camera.setCallback ∘ Camera.addCallbackBuffer ∘ Camera.startPreview) } := by
  obtain ⟨c, hc, hopen⟩ := h.held k hk
  have hpreview : (s.call k Camera.startPreview).cameras[k]? = some c.startPreview := by
    rw [call_eq hc hopen, List.getElem?_modify_eq, hc]
    rfl
  simp only [startRecod, hk]
  rw [call_call_eq hpreview hopen hopen, call_eq hc hopen]
  simp only [List.modify_modify_eq, Function.comp_assoc, hk]

/-- **`stopRecord`** takes the callback and its buffers away and stops the preview. -/
theorem Ledger.stopRecord_eq (h : s.Ledger) (hk : s.mCamera = some k) :
    s.stopRecord =
      { s with
        cameras := s.cameras.modify k (Camera.stopPreview ∘ Camera.clearCallback) } := by
  obtain ⟨c, hc, hopen⟩ := h.held k hk
  simp only [stopRecord, hk]
  rw [call_call_eq hc hopen hopen, hk]

theorem SameFrames.trans (h : s.SameFrames s') (h' : s'.SameFrames s'') : s.SameFrames s'' :=
  ⟨h'.crashed.trans h.crashed, h'.frames.trans h.frames,
    fun k ↦ (h'.hands k).trans (h.hands k)⟩

/-- **The camera in the field changes**, and is not released. -/
theorem Ledger.modify (h : s.Ledger) (hk : s.mCamera = some k)
    (hopen : ∀ c, (f c).released = c.released)
    (hbuffers : ∀ c, s.cameras[k]? = some c → (f c).callback = true →
      0 < (f c).buffers + frames.count k) :
    ({ s with cameras := s.cameras.modify k f, frames } : VideoSurfaceView).Ledger := by
  refine { h with held := fun j hj ↦ ?_, released := fun j c' hc' hj ↦ ?_,
                  buffers := fun j c' hj hc' hcallback ↦ ?_ }
  · obtain ⟨c, hc, hzero⟩ := h.held j hj
    obtain rfl : k = j := Option.some.inj (hk.symm.trans hj)
    refine ⟨f c, ?_, (hopen c).trans hzero⟩
    rw [List.getElem?_modify_eq, hc]
    rfl
  · obtain ⟨c, hc, rfl⟩ := getElem?_modify_eq_some hc'
    rw [if_neg fun hkj ↦ hj (hk.trans (congrArg some hkj))]
    exact h.released j c hc hj
  · obtain rfl : k = j := Option.some.inj (hk.symm.trans hj)
    obtain ⟨c, hc, rfl⟩ := getElem?_modify_eq_some hc'
    rw [if_pos rfl] at hcallback ⊢
    exact hbuffers c hc hcallback

/-- **The camera in the field is released.** -/
theorem Ledger.destroyCamera (h : s.Ledger) : s.destroyCamera.Ledger := by
  cases hk : s.mCamera with
  | none =>
    rw [VideoSurfaceView.destroyCamera, hk]
    exact h
  | some k =>
    rw [h.destroyCamera_eq hk]
    refine { h with
      held := fun _ hj ↦ nomatch hj
      released := fun j c' hc' _ ↦ ?_
      surface := fun hsome ↦ nomatch hsome
      buffers := fun _ _ hj ↦ nomatch hj }
    obtain ⟨c, hc, rfl⟩ := getElem?_modify_eq_some hc'
    split_ifs with hkj
    · obtain ⟨c₀, hc₀, hzero⟩ := h.held k hk
      obtain rfl : c₀ = c := Option.some.inj (hc₀.symm.trans (hkj ▸ hc))
      exact congrArg (· + 1) hzero
    · exact h.released j c hc fun hj ↦ hkj (Option.some.inj (hk.symm.trans hj))

/-- What `destroyCamera` leaves as it is. -/
theorem Ledger.exists_destroyCamera_eq (h : s.Ledger) :
    ∃ cameras, s.destroyCamera = { s with cameras, mCamera := none } ∧
      s.SameFrames s.destroyCamera := by
  rcases Option.eq_none_or_eq_some s.mCamera with hk | ⟨k, hk⟩
  · have heq : s.destroyCamera = s := by simp only [VideoSurfaceView.destroyCamera, hk]
    rw [heq]
    refine ⟨s.cameras, ?_, rfl, rfl, fun _ ↦ rfl⟩
    rw [← hk]
  · rw [h.destroyCamera_eq hk]
    refine ⟨_, rfl, rfl, rfl, fun j ↦ ?_⟩
    rw [hands, hands, List.getElem?_modify]
    cases s.cameras[j]? with
    | none => rfl
    | some c =>
      simp only [Option.map_eq_map, Option.map_some, Option.any_some]
      split_ifs <;> rfl

/-- **`surfaceDestroyed` and `closeVideo`** leave no camera in the field, and the frames as they
are. -/
theorem Ledger.closes (h : s.Ledger) (he : e.Closes) (hstep : s.step e = some s') :
    s'.Ledger ∧ s'.mCamera = none ∧ s.SameFrames s' := by
  obtain ⟨-, hnext⟩ := step_eq_some.1 hstep
  have hdestroyed := h.destroyCamera
  obtain ⟨cameras, heq, hsame⟩ := h.exists_destroyCamera_eq
  rw [heq] at hdestroyed hsame
  rcases he with rfl | rfl
  · simp only [next, h.stopCamera_eq, heq] at hnext
    split_ifs at hnext
    cases hnext
    exact ⟨{ hdestroyed with surface := fun hsome ↦ nomatch hsome }, rfl, { hsame with }⟩
  · simp only [next, closeVideo, h.stopCamera_eq, heq] at hnext
    split_ifs at hnext with hguard hcodec
    · cases hnext
      exact ⟨{ hdestroyed with
        surface := fun hsome ↦ nomatch hsome
        codec := fun hfalse ↦ nomatch hfalse }, rfl, { hsame with }⟩
    · exact absurd (h.codec (by simpa using hguard)) hcodec

/-- A camera is opened. -/
theorem Ledger.opened (h : s.Ledger) (hnone : s.mCamera = none) (hsurface : s.surface = true)
    (hcodec : s.mMediaCodec = true) :
    ({ s with
      cameras := s.cameras ++ [.opened]
      mCamera := some s.cameras.length } : VideoSurfaceView).Ledger := by
  refine { h with held := fun j hj ↦ ?_, released := fun j c hc hj ↦ ?_,
                  surface := fun _ ↦ ⟨hsurface, hcodec⟩, buffers := fun j c hj hc hcallback ↦ ?_ }
  · cases hj
    exact ⟨.opened, List.getElem?_concat_length, rfl⟩
  · have hlt := (List.getElem?_eq_some_iff.1 hc).1
    rw [List.length_append, List.length_singleton] at hlt
    have hne : s.cameras.length ≠ j := fun heq ↦ hj (congrArg some heq)
    rw [List.getElem?_append_left (by omega)] at hc
    exact h.released j c hc (by rw [hnone]; simp)
  · cases hj
    obtain rfl : Camera.opened = c := Option.some.inj (List.getElem?_concat_length.symm.trans hc)
    cases hcallback

theorem sameFrames_opened (mCamera : Option ℕ) :
    s.SameFrames { s with cameras := s.cameras ++ [.opened], mCamera } := by
  refine ⟨rfl, rfl, fun k ↦ ?_⟩
  rw [hands, hands]
  rcases Nat.lt_trichotomy k s.cameras.length with hlt | rfl | hgt
  · rw [List.getElem?_append_left hlt]
  · rw [List.getElem?_concat_length, List.getElem?_eq_none (Nat.le_refl _)]
    rfl
  · have hle : (s.cameras ++ [Camera.opened]).length ≤ k := by
      rw [List.length_append, List.length_singleton]
      exact hgt
    rw [List.getElem?_eq_none (Nat.le_of_lt hgt), List.getElem?_eq_none hle]

/-- **`createCamera`** for a view without a camera. The camera that it leaves in the field is new.
-/
theorem Ledger.createCamera (h : s.Ledger) (hnone : s.mCamera = none) (hsurface : s.surface = true)
    (hcodec : s.mMediaCodec = true) (o : OpenOutcome) :
    (s.createCamera o).Ledger ∧ s.SameFrames (s.createCamera o) ∧
      ∀ k, (s.createCamera o).mCamera = some k → s.cameras[k]? = none := by
  have hopened := h.opened hnone hsurface hcodec
  simp only [VideoSurfaceView.createCamera, hnone, Option.elim_none]
  cases o with
  | openThrows =>
    obtain ⟨cameras, heq, hsame⟩ := h.exists_destroyCamera_eq
    refine ⟨h.destroyCamera, hsame, fun k hk ↦ ?_⟩
    rw [heq] at hk
    cases hk
  | setupThrows =>
    obtain ⟨cameras, heq, hsame⟩ := hopened.exists_destroyCamera_eq
    refine ⟨hopened.destroyCamera, (sameFrames_opened _).trans hsame, fun k hk ↦ ?_⟩
    rw [heq] at hk
    cases hk
  | opens =>
    refine ⟨hopened, sameFrames_opened _, fun k hk ↦ ?_⟩
    cases hk
    exact List.getElem?_eq_none (Nat.le_refl _)

/-- **`surfaceCreated`** comes when there is no camera. -/
theorem Ledger.surfaceCreated {o : OpenOutcome} (h : s.Ledger)
    (hstep : s.step (.surfaceCreated o) = some s') :
    s.mCamera = none ∧ s'.Ledger ∧ s.SameFrames s' ∧
      ∀ k, s'.mCamera = some k → s.cameras[k]? = none := by
  obtain ⟨-, hnext⟩ := step_eq_some.1 hstep
  simp only [next] at hnext
  split_ifs at hnext with hguard
  cases hnext
  rw [Bool.or_eq_true, not_or] at hguard
  have hnone : s.mCamera = none := by
    by_contra hsome
    exact hguard.1 (h.surface (Option.isSome_iff_ne_none.2 hsome)).1
  have hcodec : s.mMediaCodec = true := h.codec (by simpa using hguard.2)
  have hsurface : ({ s with surface := true } : VideoSurfaceView).Ledger :=
    { h with surface := fun _ ↦ ⟨rfl, hcodec⟩ }
  obtain ⟨hledger, hsame, hnew⟩ := hsurface.createCamera hnone rfl hcodec o
  exact ⟨hnone, hledger, { hsame with }, hnew⟩

theorem onPreviewFrame_of_some (hcodec : s.mMediaCodec = true) (hk : s.mCamera = some k)
    (hc : s.cameras[k]? = some c) (hopen : c.released = 0) :
    s.onPreviewFrame =
      { s with cameras := s.cameras.modify k Camera.addCallbackBuffer } := by
  simp only [onPreviewFrame, hcodec, hk, if_true]
  rw [call_eq hc hopen]
  simp only [hcodec, hk]

theorem onPreviewFrame_of_none (hnone : s.mCamera = none) : s.onPreviewFrame = s.crash := by
  rw [onPreviewFrame, hnone]
  exact ite_self _

theorem exists_frames_of_step (hstep : s.step .handleFrame = some s') :
    ∃ j frames, s.frames = j :: frames := by
  obtain ⟨-, hnext⟩ := step_eq_some.1 hstep
  cases hframes : s.frames with
  | nil =>
    rw [next, hframes] at hnext
    cases hnext
  | cons j frames => exact ⟨j, frames, rfl⟩

/-- Without a camera, a frame is dropped, or it follows the `null`. -/
theorem step_handleFrame_of_none (hnone : s.mCamera = none) (hcrashed : s.crashed = false)
    (hframes : s.frames = j :: frames) :
    s.step .handleFrame = some { s with frames, crashed := s.hands j } := by
  rw [step_eq_some]
  refine ⟨hcrashed, ?_⟩
  simp only [next, hframes]
  rw [onPreviewFrame_of_none (s := { s with frames }) hnone]
  cases hands s j with
  | true => rfl
  | false => rw [if_neg Bool.false_ne_true, ← hcrashed]

/-- With a camera, a frame leaves the queue, and a buffer comes back if the frame is given to the
callback. -/
theorem Ledger.step_handleFrame_of_some (h : s.Ledger) (hk : s.mCamera = some k)
    (hcrashed : s.crashed = false) (hframes : s.frames = j :: frames) :
    s.step .handleFrame = some
      { s with
        cameras := if s.hands j then s.cameras.modify k Camera.addCallbackBuffer else s.cameras
        frames } := by
  obtain ⟨c, hc, hopen⟩ := h.held k hk
  have hcodec : s.mMediaCodec = true := (h.surface (Option.isSome_iff_exists.2 ⟨k, hk⟩)).2
  rw [step_eq_some]
  refine ⟨hcrashed, ?_⟩
  simp only [next, hframes]
  rw [onPreviewFrame_of_some (s := { s with frames }) hcodec hk hc hopen]
  split_ifs <;> rfl

/-- **A frame is taken.** -/
theorem Ledger.handleFrame (h : s.Ledger) (hstep : s.step .handleFrame = some s') :
    s'.Ledger := by
  obtain ⟨hcrashed, -⟩ := step_eq_some.1 hstep
  obtain ⟨j, frames, hframes⟩ := exists_frames_of_step hstep
  rcases Option.eq_none_or_eq_some s.mCamera with hk | ⟨k, hk⟩
  · rw [step_handleFrame_of_none hk hcrashed hframes] at hstep
    cases hstep
    exact { h with buffers := fun k c hsome ↦ nomatch hk.symm.trans hsome }
  · rw [h.step_handleFrame_of_some hk hcrashed hframes] at hstep
    cases hstep
    split_ifs with hhands
    · refine h.modify hk (fun _ ↦ rfl) fun _ _ _ ↦ ?_
      exact Nat.add_pos_left (Nat.succ_pos _) _
    · refine { h with buffers := fun k' c' hk' hc' hcallback ↦ ?_ }
      have hpos := h.buffers k' c' hk' hc' hcallback
      -- The frame is not one of the camera in the field, which has the callback.
      have hne : j ≠ k' := by
        rintro rfl
        rw [hands, hc'] at hhands
        exact hhands hcallback
      rwa [hframes, List.count_cons_of_ne hne] at hpos

/-- **A frame is posted** by the camera in the field: the others have been released. -/
theorem Ledger.postFrame (h : s.Ledger) (hpost : s.cameras[k]?.any Camera.canPost) :
    s.mCamera = some k ∧
      ({ s with
        cameras := s.cameras.modify k Camera.fillBuffer
        frames := s.frames ++ [k] } : VideoSurfaceView).Ledger := by
  obtain ⟨c, hc, hcan⟩ := (Option.any_eq_true _ _).1 hpost
  simp only [Camera.canPost, Bool.and_eq_true, decide_eq_true_eq] at hcan
  have hk : s.mCamera = some k := by
    by_contra hne
    have hreleased := h.released k c hc hne
    omega
  refine ⟨hk, h.modify hk (fun _ ↦ rfl) fun _ _ _ ↦ ?_⟩
  rw [List.count_append, List.count_singleton_self]
  exact Nat.add_pos_right _ (Nat.succ_pos _)

/-- **Every step** keeps the ledger. -/
theorem Ledger.step (h : s.Ledger) (hstep : s.step e = some s') : s'.Ledger := by
  obtain ⟨-, hnext⟩ := step_eq_some.1 hstep
  cases e with
  | surfaceCreated o => exact (h.surfaceCreated hstep).2.1
  | surfaceDestroyed => exact (h.closes (Or.inl rfl) hstep).1
  | startRecod =>
    cases hnext
    rcases Option.eq_none_or_eq_some s.mCamera with hk | ⟨k, hk⟩
    · rwa [startRecod, hk]
    · rw [h.startRecod_eq hk]
      exact h.modify hk (fun _ ↦ rfl) fun c _ _ ↦ Nat.add_pos_left (Nat.succ_pos _) _
  | stopRecord =>
    cases hnext
    rcases Option.eq_none_or_eq_some s.mCamera with hk | ⟨k, hk⟩
    · rwa [stopRecord, hk]
    · rw [h.stopRecord_eq hk]
      exact h.modify hk (fun _ ↦ rfl) fun c _ hcallback ↦ nomatch hcallback
  | closeVideo => exact (h.closes (Or.inr rfl) hstep).1
  | postFrame k =>
    simp only [next] at hnext
    split_ifs at hnext with hpost
    cases hnext
    exact (h.postFrame hpost).2
  | handleFrame => exact h.handleFrame hstep

end Steps

theorem ledger_of_reach {s : VideoSurfaceView} (h : videoSurfaceView.Reach s) : s.Ledger :=
  h.invariant ledger_created fun _ _ _ hs ↦ hs.step

/-! ### Frames that find no camera -/

/-- The surface and the activity are destroyed when no frame waits for the callback. -/
def ClosesQuietly (s : VideoSurfaceView) (e : ViewEvent) : Prop :=
  e.Closes → ∀ k ∈ s.frames, s.hands k = false

/-- Nothing has been followed that is `null`, and the frames that will be given to the callback are
those of the camera in the field. -/
structure Quiet (s : VideoSurfaceView) : Prop extends s.Ledger where
  crashed : s.crashed = false
  frames : ∀ k ∈ s.frames, s.hands k = true → s.mCamera = some k

section Frames

variable {s s' : VideoSurfaceView} {e : ViewEvent} {k j : ℕ} {f : Camera → Camera}
  {frames : List ℕ}

theorem quiet_created : created.Quiet where
  toLedger := ledger_created
  crashed := rfl
  frames k hk := by cases hk

/-- The frames of the other cameras. -/
theorem hands_modify_of_ne (hkj : k ≠ j) :
    ({ s with cameras := s.cameras.modify k f, frames } : VideoSurfaceView).hands j =
      s.hands j := by
  simp only [hands, List.getElem?_modify, hkj, if_false]
  cases s.cameras[j]? <;> rfl

/-- **The camera in the field changes**, and frames are posted by it or taken. -/
theorem Quiet.modify (h : s.Quiet) (hk : s.mCamera = some k)
    (hframes : ∀ j ∈ frames, j = k ∨ j ∈ s.frames)
    (hledger : ({ s with cameras := s.cameras.modify k f, frames } : VideoSurfaceView).Ledger) :
    ({ s with cameras := s.cameras.modify k f, frames } : VideoSurfaceView).Quiet := by
  refine ⟨hledger, h.crashed, fun j hj hhands ↦ ?_⟩
  rcases hframes j hj with rfl | hmem
  · exact hk
  · by_cases hkj : k = j
    · exact hkj ▸ hk
    · rw [hands_modify_of_ne hkj] at hhands
      exact h.frames j hmem hhands

/-- **Every step** that meets the condition. -/
theorem Quiet.step (h : s.Quiet) (hok : s.ClosesQuietly e) (hstep : s.step e = some s') :
    s'.Quiet := by
  have hledger := h.toLedger.step hstep
  obtain ⟨hcrashed, hnext⟩ := step_eq_some.1 hstep
  have hclosed (hcloses : e.Closes) : s'.Quiet := by
    obtain ⟨-, -, hsame⟩ := h.toLedger.closes hcloses hstep
    refine ⟨hledger, hsame.crashed.trans hcrashed, fun k hk hhands ↦ ?_⟩
    rw [hsame.hands, hok hcloses k (hsame.frames ▸ hk)] at hhands
    cases hhands
  cases e with
  | surfaceCreated o =>
    -- The new camera has posted nothing, and without a camera no waiting frame had a callback.
    obtain ⟨hnone, -, hsame, -⟩ := h.surfaceCreated hstep
    refine ⟨hledger, hsame.crashed.trans hcrashed, fun k hk hhands ↦ ?_⟩
    rw [hsame.frames] at hk
    rw [hsame.hands] at hhands
    exact nomatch hnone.symm.trans (h.frames k hk hhands)
  | surfaceDestroyed => exact hclosed (Or.inl rfl)
  | startRecod =>
    cases hnext
    rcases Option.eq_none_or_eq_some s.mCamera with hk | ⟨k, hk⟩
    · rwa [startRecod, hk]
    · rw [h.startRecod_eq hk] at hledger ⊢
      exact h.modify hk (fun _ ↦ Or.inr) hledger
  | stopRecord =>
    cases hnext
    rcases Option.eq_none_or_eq_some s.mCamera with hk | ⟨k, hk⟩
    · rwa [stopRecord, hk]
    · rw [h.stopRecord_eq hk] at hledger ⊢
      exact h.modify hk (fun _ ↦ Or.inr) hledger
  | closeVideo => exact hclosed (Or.inr rfl)
  | postFrame k =>
    simp only [next] at hnext
    split_ifs at hnext with hpost
    cases hnext
    refine h.modify (h.postFrame hpost).1 (fun j hj ↦ ?_) hledger
    rcases List.mem_append.1 hj with hmem | hmem
    · exact Or.inr hmem
    · exact Or.inl (List.mem_singleton.1 hmem)
  | handleFrame =>
    obtain ⟨j, frames, hframes⟩ := exists_frames_of_step hstep
    have hrest : ∀ i ∈ frames, i ∈ s.frames := fun i hi ↦ hframes ▸ List.mem_cons_of_mem j hi
    rcases Option.eq_none_or_eq_some s.mCamera with hk | ⟨k, hk⟩
    · have hhands : s.hands j = false := by
        by_contra hne
        have hsome := h.frames j (hframes ▸ List.mem_cons_self) (by simpa using hne)
        exact nomatch hk.symm.trans hsome
      rw [step_handleFrame_of_none hk hcrashed hframes] at hstep
      cases hstep
      exact ⟨hledger, hhands, fun i hi ↦ h.frames i (hrest i hi)⟩
    · rw [h.step_handleFrame_of_some hk hcrashed hframes] at hstep
      cases hstep
      split_ifs at hledger ⊢
      · exact h.modify hk (fun i hi ↦ Or.inr (hrest i hi)) hledger
      · exact ⟨hledger, hcrashed, fun i hi ↦ h.frames i (hrest i hi)⟩

/-- **After `stopRecord`** no frame is given to the callback. -/
theorem Quiet.hands_stopRecord (h : s.Quiet) (hstep : s.step .stopRecord = some s') :
    ∀ j ∈ s'.frames, s'.hands j = false := by
  obtain ⟨-, hnext⟩ := step_eq_some.1 hstep
  cases hnext
  intro j hj
  rw [← Bool.not_eq_true]
  intro hhands
  rcases Option.eq_none_or_eq_some s.mCamera with hk | ⟨k, hk⟩
  · rw [stopRecord, hk] at hj hhands
    exact nomatch hk.symm.trans (h.frames j hj hhands)
  · rw [h.stopRecord_eq hk] at hj hhands
    by_cases hkj : k = j
    · obtain ⟨c, hc, -⟩ := h.held k hk
      subst hkj
      simp only [hands, List.getElem?_modify_eq, hc] at hhands
      cases hhands
    · rw [hands_modify_of_ne hkj] at hhands
      exact hkj (Option.some.inj (hk.symm.trans (h.frames j hj hhands)))

/-- **Without a camera**, the frames that wait are taken one after the other until one is given to
the callback. -/
theorem exists_crash_iff (hnone : s.mCamera = none) (hcrashed : s.crashed = false) :
    (∃ n s', videoSurfaceView.exec s (List.replicate n .handleFrame) = some s' ∧
      s'.crashed = true) ↔ ∃ k ∈ s.frames, s.hands k = true := by
  induction hframes : s.frames generalizing s with
  | nil =>
    have hstep : videoSurfaceView.step s .handleFrame = none := by
      change s.step .handleFrame = none
      simp [step, next, hframes]
    rw [TransitionSystem.exists_exec_replicate_iff]
    simp [hcrashed, hstep]
  | cons j frames ih =>
    have hstep : videoSurfaceView.step s .handleFrame =
        some { s with frames, crashed := s.hands j } :=
      step_handleFrame_of_none hnone hcrashed hframes
    rw [TransitionSystem.exists_exec_replicate_iff]
    cases hhands : s.hands j with
    | true =>
      rw [hhands] at hstep
      refine iff_of_true (Or.inr ⟨_, hstep, 0, _, rfl, rfl⟩) ⟨j, List.mem_cons_self, hhands⟩
    | false =>
      rw [hhands] at hstep
      have hrest := ih (s := { s with frames, crashed := false }) hnone rfl rfl
      simp only [hcrashed, hstep, Option.some.injEq, exists_eq_left', Bool.false_eq_true, false_or,
        List.exists_mem_cons_iff, hhands]
      exact hrest

end Frames

end VideoSurfaceView

/-- **The cameras.** Whatever happens, every camera that was opened and is not the one in the field
has been released, once. The one in the field is open, and the surface is there; and if it has the
callback, then it has a buffer for the next frame, or one of its frames waits. -/
theorem cameras_of_reach {s : VideoSurfaceView} (h : videoSurfaceView.Reach s) (k : ℕ)
    {c : Camera} (hc : s.cameras[k]? = some c) :
    c.released = (if s.mCamera = some k then 0 else 1) ∧
      (s.mCamera = some k →
        s.surface = true ∧ (c.callback = true → 0 < c.buffers ∨ k ∈ s.frames)) := by
  have hledger := VideoSurfaceView.ledger_of_reach h
  split_ifs with hk
  · obtain ⟨c', hc', hopen⟩ := hledger.held k hk
    obtain rfl : c' = c := Option.some.inj (hc'.symm.trans hc)
    refine ⟨hopen, fun _ ↦ ⟨(hledger.surface (Option.isSome_iff_exists.2 ⟨k, hk⟩)).1,
      fun hcallback ↦ ?_⟩⟩
    have hpos := hledger.buffers k c' hk hc hcallback
    rw [← List.count_pos_iff]
    omega
  · exact ⟨hledger.released k c hc hk, fun hk' ↦ absurd hk' hk⟩

/-- The surface is destroyed while a frame of its camera waits, and another one is created. -/
theorem cameras_of_reach_two : ∃ s : VideoSurfaceView, videoSurfaceView.Reach s ∧
    s.frames = [0] ∧ s.cameras.map Camera.released = [1, 0] ∧ s.mCamera = some 1 ∧
      s.cameras[0]?.map Camera.released = some (if s.mCamera = some 0 then 0 else 1) := by
  obtain ⟨s, hexec, hframes, hreleased, hcamera, c, hc⟩ : ∃ s : VideoSurfaceView,
      videoSurfaceView.exec .created [.surfaceCreated .opens, .startRecod, .postFrame 0,
        .surfaceDestroyed, .surfaceCreated .opens] = some s ∧
      s.frames = [0] ∧ s.cameras.map Camera.released = [1, 0] ∧ s.mCamera = some 1 ∧
      ∃ c, s.cameras[0]? = some c :=
    ⟨_, rfl, rfl, rfl, rfl, _, rfl⟩
  have hinit : videoSurfaceView.Reach .created := .init
  have hreach := hinit.exec hexec
  refine ⟨s, hreach, hframes, hreleased, hcamera, ?_⟩
  rw [hc]
  exact congrArg some (cameras_of_reach hreach 0 hc).1

/-- **A frame finds a `null`**, and ends the process, only if it waits when the surface or the
activity is destroyed. As long as no frame waits then whose camera still has the callback, no `null`
is followed and no method of a released camera is called; and where one waits, taking the frames one
after the other follows the `null` in `mMediaCodec`, if the activity is destroyed, or in `mCamera`.
None waits after `stopRecord`. -/
theorem previewFrame_of_reachIf {s : VideoSurfaceView}
    (h : videoSurfaceView.ReachIf VideoSurfaceView.ClosesQuietly s) :
    s.crashed = false ∧
      (∀ e s₁, e.Closes → videoSurfaceView.step s e = some s₁ →
        ((∃ n s₂, videoSurfaceView.exec s₁ (List.replicate n .handleFrame) = some s₂ ∧
          s₂.crashed = true) ↔ ¬ s.ClosesQuietly e)) ∧
      ∀ e s₁, videoSurfaceView.step s .stopRecord = some s₁ → s₁.ClosesQuietly e := by
  have hquiet : s.Quiet :=
    h.invariant VideoSurfaceView.quiet_created fun _ _ _ hs hok hstep ↦ hs.step hok hstep
  refine ⟨hquiet.crashed, fun e s₁ he hstep ↦ ?_, fun _ _ hstep _ ↦ hquiet.hands_stopRecord hstep⟩
  obtain ⟨-, hnone, hsame⟩ := hquiet.closes he hstep
  have hcrashed := hsame.crashed.trans hquiet.crashed
  rw [VideoSurfaceView.exists_crash_iff hnone hcrashed, hsame.frames]
  simp [VideoSurfaceView.ClosesQuietly, he, hsame.hands]

/-- The activity is destroyed while a frame waits. -/
theorem previewFrame_of_reachIf_waiting : ∃ s s₁ : VideoSurfaceView,
    videoSurfaceView.ReachIf VideoSurfaceView.ClosesQuietly s ∧
      videoSurfaceView.step s .closeVideo = some s₁ ∧
      ∃ n s₂, videoSurfaceView.exec s₁ (List.replicate n .handleFrame) = some s₂ ∧
        s₂.crashed = true := by
  let events : List ViewEvent := [.surfaceCreated .opens, .startRecod, .postFrame 0]
  obtain ⟨s, hexec, hframes, hhands, s₁, hs₁⟩ : ∃ s : VideoSurfaceView,
      videoSurfaceView.exec .created events = some s ∧ 0 ∈ s.frames ∧ s.hands 0 = true ∧
      ∃ s₁, videoSurfaceView.step s .closeVideo = some s₁ :=
    ⟨_, rfl, List.mem_cons_self, rfl, _, rfl⟩
  have hinit : videoSurfaceView.ReachIf VideoSurfaceView.ClosesQuietly .created := .init
  have hopen : ∀ e ∈ events, ¬ e.Closes := by decide
  have hreach := hinit.exec events (fun s e he hcloses ↦ absurd hcloses (hopen e he)) hexec
  refine ⟨s, s₁, hreach, hs₁,
    ((previewFrame_of_reachIf hreach).2.1 .closeVideo s₁ (Or.inr rfl) hs₁).2 fun hquiet ↦ ?_⟩
  have hfalse := hquiet (Or.inr rfl) 0 hframes
  rw [hhands] at hfalse
  cases hfalse

end DoorIntercom
