import Mathlib.Data.List.Basic
import Mathlib.Data.List.Nodup
import Mathlib.Data.List.Range
import Mathlib.Data.Option.Basic
import DoorIntercom.Lib.Transition

/-!
# The frame queue of the encoder

The camera thread puts frames into `YUVQueue`, an `ArrayBlockingQueue` of ten elements, and the
encoder thread of `AvcEncoder` takes them out and queues them to the codec. A call of the queue is
atomic, but both threads test its size first and act on the result afterwards.

The camera's test is safe, since the encoder only takes frames out: the queue is never overfilled
(`HasRoom.step`). The encoder's test is not, and what it does without a frame is worse: `input`
outlives the iteration, so an empty queue makes it queue the last frame once more
(`queued_of_emptyTest`); and where the camera drops the only frame between test and `poll`, it
converts `null` and queues a blank frame.

In a run in which the encoder neither finds the queue empty after its first frame nor takes a frame
that is gone (`FindsFrame`), the frames queued, the one in `input` and those in the queue are frames
put, in order (`InOrder`).

Frames are numbered in the order in which they are put. A blank frame is `none`.
-/

namespace DoorIntercom

/-! ### The threads -/

/-- Where the camera thread is: not in `putYUVData`, before `poll`, before `add`. -/
inductive CameraPc
  | idle
  | poll
  | add
  deriving DecidableEq, Repr

/-- Where the encoder thread is: at the head of its loop, before `poll`, behind the first `if`. -/
inductive EncoderPc
  | head
  | poll
  | encode
  deriving DecidableEq, Repr

/-- The queue and the two threads. `added` is the number of frames put, `full` whether `add` has
thrown, and `queued` the frames queued to the codec. -/
structure FrameQueue where
  YUVQueue : List ℕ
  added : ℕ
  full : Bool
  camera : CameraPc
  encoder : EncoderPc
  input : Option (Option ℕ)
  queued : List (Option ℕ)
  deriving DecidableEq, Repr

/-- A step of one of the threads. -/
inductive FrameEvent
  | camera
  | encoder
  deriving DecidableEq, Repr

/-- `yuvqueuesize`. -/
abbrev yuvqueuesize : ℕ := 10

namespace FrameQueue

/-- A step of `putYUVData`. -/
def putYUVData (s : FrameQueue) : FrameQueue :=
  match s.camera with
  | .idle => { s with camera := if yuvqueuesize ≤ s.YUVQueue.length then .poll else .add }
  | .poll => { s with YUVQueue := s.YUVQueue.tail, camera := .add }
  | .add =>
    if s.YUVQueue.length < yuvqueuesize then
      { s with YUVQueue := s.YUVQueue ++ [s.added], added := s.added + 1, camera := .idle }
    else { s with full := true, camera := .idle }

/-- A step of the encoder's loop. The frame is converted where it is taken out; `NV21ToNV12` of
`null` leaves a blank frame. -/
def encoderLoop (s : FrameQueue) : FrameQueue :=
  match s.encoder with
  | .head => { s with encoder := if 0 < s.YUVQueue.length then .poll else .encode }
  | .poll =>
    { s with YUVQueue := s.YUVQueue.tail, input := some s.YUVQueue.head?, encoder := .encode }
  | .encode => { s with queued := s.queued ++ s.input.toList, encoder := .head }

end FrameQueue

/-- The two threads. -/
def frameQueue : TransitionSystem FrameQueue FrameEvent where
  init := ⟨[], 0, false, .idle, .head, none, []⟩
  step
    | s, .camera => some s.putYUVData
    | s, .encoder => some s.encoderLoop

namespace FrameQueue

/-! ### The property -/

/-- The frames put, in order. -/
def frames (s : FrameQueue) : List (Option ℕ) := (List.range s.added).map some

/-- `add` has not thrown, and the frames queued to the codec are frames put, in order and each at
most once. -/
def EncodesOnce (s : FrameQueue) : Prop := s.full = false ∧ s.queued.Sublist s.frames

instance (s : FrameQueue) : Decidable s.EncodesOnce := inferInstanceAs (Decidable (_ ∧ _))

/-- No frame is queued twice. -/
theorem EncodesOnce.nodup {s : FrameQueue} (h : s.EncodesOnce) : s.queued.Nodup :=
  h.2.nodup (List.nodup_range.map (Option.some_injective ℕ))

/-- The encoder finds a frame where it looks for one: an empty queue only as long as there was no
frame yet, and after the test the frame is still there. -/
def FindsFrame (s : FrameQueue) : FrameEvent → Prop
  | .camera => True
  | .encoder =>
    (s.encoder = .head → s.YUVQueue = [] → s.input = none) ∧
      (s.encoder = .poll → s.YUVQueue ≠ [])

instance (s : FrameQueue) : ∀ a, Decidable (s.FindsFrame a)
  | .camera => isTrue trivial
  | .encoder => inferInstanceAs (Decidable (_ ∧ _))

/-! ### The capacity -/

/-- The queue is not overfilled, and the camera thread adds to it only if there is room. -/
structure HasRoom (s : FrameQueue) : Prop where
  full : s.full = false
  length_le : s.YUVQueue.length ≤ yuvqueuesize
  room : s.camera = .add → s.YUVQueue.length < yuvqueuesize

variable {s s' : FrameQueue}

/-- A step of the camera thread: it adds behind its test, with what it has found there or made. -/
theorem HasRoom.putYUVData (h : s.HasRoom) : s.putYUVData.HasRoom := by
  have hle := h.length_le
  have hpos : 0 < yuvqueuesize := by decide
  rw [FrameQueue.putYUVData]
  cases hc : s.camera with
  | idle =>
    refine ⟨h.full, hle, fun hadd ↦ ?_⟩
    by_contra hno
    rw [if_pos (Nat.not_lt.1 hno)] at hadd
    cases hadd
  | poll =>
    have htail : s.YUVQueue.tail.length < yuvqueuesize := by
      rw [List.length_tail]
      omega
    exact ⟨h.full, htail.le, fun _ ↦ htail⟩
  | add =>
    have hroom := h.room hc
    simp only [if_pos hroom]
    refine ⟨h.full, ?_, fun hadd ↦ by cases hadd⟩
    rw [List.length_append, List.length_singleton]
    omega

/-- A step of the encoder thread only makes room. -/
theorem HasRoom.encoderLoop (h : s.HasRoom) : s.encoderLoop.HasRoom := by
  rw [FrameQueue.encoderLoop]
  cases hc : s.encoder with
  | head => exact ⟨h.full, h.length_le, h.room⟩
  | poll =>
    have htail : s.YUVQueue.tail.length ≤ s.YUVQueue.length := by
      rw [List.length_tail]
      omega
    exact ⟨h.full, htail.trans h.length_le, fun hadd ↦ htail.trans_lt (h.room hadd)⟩
  | encode => exact ⟨h.full, h.length_le, h.room⟩

/-- **The step lemma**, for any step. -/
theorem HasRoom.step (h : s.HasRoom) (a : FrameEvent) (hs : frameQueue.step s a = some s') :
    s'.HasRoom := by
  cases a with
  | camera =>
    obtain rfl := Option.some.inj hs
    exact h.putYUVData
  | encoder =>
    obtain rfl := Option.some.inj hs
    exact h.encoderLoop

/-- **The queue is never overfilled.** -/
theorem hasRoom_of_reach (h : frameQueue.Reach s) : s.HasRoom :=
  h.invariant ⟨rfl, by decide, fun hadd ↦ by cases hadd⟩ fun _ a _ hs ↦ hs.step a

/-! ### The order -/

/-- The frame in `input`, where it has not been queued yet. -/
def pendingInput (s : FrameQueue) : List (Option ℕ) :=
  if s.encoder = .encode then s.input.toList else []

/-- The frames queued, the one in `input` and those in the queue are frames put, in order. -/
def InOrder (s : FrameQueue) : Prop :=
  (s.queued ++ s.pendingInput ++ s.YUVQueue.map some).Sublist s.frames

/-- A step of the camera thread drops the oldest frame, or puts a new one behind all of them. -/
theorem InOrder.putYUVData (h : s.InOrder) : s.putYUVData.InOrder := by
  rw [InOrder, pendingInput, frames] at h
  rw [FrameQueue.putYUVData]
  cases hc : s.camera with
  | idle => exact h
  | poll =>
    have htail : (s.YUVQueue.tail.map some).Sublist (s.YUVQueue.map some) :=
      (List.tail_sublist s.YUVQueue).map some
    exact (htail.append_left _).trans h
  | add =>
    by_cases hroom : s.YUVQueue.length < yuvqueuesize
    · simp only [if_pos hroom]
      rw [InOrder, pendingInput, frames]
      simp only [List.range_succ, List.map_append, List.map_cons, List.map_nil]
      rw [← List.append_assoc]
      exact h.append (List.Sublist.refl [some s.added])
    · simp only [if_neg hroom]
      exact h

/-- A step of the encoder thread that finds a frame hands it on. -/
theorem InOrder.encoderLoop (h : s.InOrder) (hok : s.FindsFrame .encoder) :
    s.encoderLoop.InOrder := by
  rw [InOrder, pendingInput, frames] at h
  rw [FrameQueue.encoderLoop]
  cases hc : s.encoder with
  | head =>
    rw [hc, if_neg (show EncoderPc.head ≠ .encode by decide)] at h
    rw [InOrder, pendingInput]
    by_cases hempty : 0 < s.YUVQueue.length
    · simp only [if_pos hempty, if_neg (show EncoderPc.poll ≠ .encode by decide)]
      exact h
    · -- an empty queue: `input` is still `null`
      have hnone : s.input = none := hok.1 hc (List.length_eq_zero_iff.1 (by omega))
      simp only [if_neg hempty, hnone, Option.toList_none, ite_self]
      exact h
  | poll =>
    obtain ⟨f, rest, hqueue⟩ := List.exists_cons_of_ne_nil (hok.2 hc)
    rw [hc, if_neg (show EncoderPc.poll ≠ .encode by decide), hqueue] at h
    rw [InOrder, pendingInput, frames, hqueue]
    simpa using h
  | encode =>
    rw [hc, if_pos rfl] at h
    rw [InOrder, pendingInput, frames]
    simpa using h

/-- **The step lemma**, for the steps that find a frame. -/
theorem InOrder.step (h : s.InOrder) (a : FrameEvent) (hok : s.FindsFrame a)
    (hs : frameQueue.step s a = some s') : s'.InOrder := by
  cases a with
  | camera =>
    obtain rfl := Option.some.inj hs
    exact h.putYUVData
  | encoder =>
    obtain rfl := Option.some.inj hs
    exact h.encoderLoop hok

/-! ### Without a frame -/

/-- **Testing an empty queue** after the first frame queues the last frame once more. -/
theorem queued_of_emptyTest (hhead : s.encoder = .head) (hempty : s.YUVQueue = [])
    {last : Option ℕ} (hinput : s.input = some last) :
    s.encoderLoop.encoderLoop.queued = s.queued ++ [last] := by
  simp [encoderLoop, hhead, hempty, hinput]

/-- **Taking a frame that is gone** queues a blank one. -/
theorem queued_of_emptyPoll (hpoll : s.encoder = .poll) (hempty : s.YUVQueue = []) :
    s.encoderLoop.encoderLoop.queued = s.queued ++ [none] := by
  simp [encoderLoop, hpoll, hempty]

/-- A blank frame is no frame put. -/
theorem EncodesOnce.none_not_mem (h : s.EncodesOnce) : none ∉ s.queued := by
  intro hnone
  have hmem := h.2.subset hnone
  simp [frames] at hmem

/-- **Every frame is encoded at most once and in order**, in every state that is reached by steps at
which the encoder finds a frame; and the queue is never overfilled. -/
theorem encodesOnce_of_reachIf (s : FrameQueue) (h : frameQueue.ReachIf FindsFrame s) :
    s.EncodesOnce := by
  have horder : s.InOrder := h.invariant (List.Sublist.refl _) fun _ a _ hs ↦ hs.step a
  refine ⟨(hasRoom_of_reach h.reach).full, ?_⟩
  rw [InOrder, List.append_assoc] at horder
  exact (List.sublist_append_left _ _).trans horder

theorem encodesOnce_one_frame :
    EncodesOnce ⟨[], 1, false, .idle, .head, some (some 0), [some 0]⟩ := by
  apply encodesOnce_of_reachIf
  exact TransitionSystem.ReachIf.init
    |>.step (a := .camera) trivial rfl
    |>.step (a := .camera) trivial rfl
    |>.step (a := .encoder) (by decide) rfl
    |>.step (a := .encoder) (by decide) rfl
    |>.step (a := .encoder) (by decide) rfl

/-- **One frame, and no second one in time**: the encoder tests the empty queue and queues the frame
again. -/
theorem not_encodesOnce_repeated : ¬ ∀ s, frameQueue.Reach s → s.EncodesOnce := by
  intro h
  have hrun : frameQueue.exec frameQueue.init
      [.camera, .camera, .encoder, .encoder, .encoder, .encoder, .encoder] =
        some ⟨[], 1, false, .idle, .head, some (some 0), [some 0, some 0]⟩ := rfl
  have hreach := TransitionSystem.Reach.exec TransitionSystem.ReachIf.init hrun
  exact absurd (h _ hreach) (by decide)

end FrameQueue

end DoorIntercom
