import DoorIntercom.Call.MainActivity
import DoorIntercom.Lib.History
import DoorIntercom.Video.VideoSurfaceView
import Mathlib.Data.List.DropRight

/-!
# What the calls record

The calls count the video view as recording after `startRecod` and until `stopRecord`
(`Activity.recordingAfter`). The view gives frames to the callback if its camera has one. The two
agree as long as the surface stays and there is a camera, whatever frames come in between. What was
started before the surface was created, or before it was destroyed, does not count
(`records_of_exec`): a call that is accepted before there is a surface records nothing.
-/

namespace DoorIntercom

variable {α : Type}

/-- The effect of a call that an event is, if it is one. -/
def ViewEvent.effect? : ViewEvent → Option (Effect α)
  | .startRecod => some .startRecod
  | .stopRecord => some .stopRecord
  | _ => none

/-- Neither the surface nor the activity is created or destroyed. -/
def ViewEvent.keepsSurface : ViewEvent → Bool
  | .surfaceCreated _ => false
  | .surfaceDestroyed => false
  | .closeVideo => false
  | _ => true

namespace VideoSurfaceView

/-- The camera in the field has the callback. -/
def records (s : VideoSurfaceView) : Bool := s.mCamera.any s.hands

section Records

variable {s s' : VideoSurfaceView} {e : ViewEvent} {k : ℕ} {c : Camera} {f : Camera → Camera}
  {frames : List ℕ}

theorem records_of_none (hnone : s.mCamera = none) : s.records = false := by
  rw [records, hnone, Option.any_none]

theorem records_of_some (hk : s.mCamera = some k) (hc : s.cameras[k]? = some c) :
    s.records = c.callback := by
  rw [records, hk, Option.any_some, hands, hc, Option.any_some]

/-- The camera in the field changes. -/
theorem records_modify (hk : s.mCamera = some k) (hc : s.cameras[k]? = some c) :
    ({ s with cameras := s.cameras.modify k f, frames } : VideoSurfaceView).records =
      (f c).callback := by
  refine records_of_some (k := k) hk ?_
  rw [List.getElem?_modify_eq, hc]
  rfl

/-- **Every step** with a camera. -/
theorem Ledger.records_of_some (h : s.Ledger) (hk : s.mCamera = some k) (he : e.keepsSurface = true)
    (hstep : s.step e = some s') :
    s'.mCamera = some k ∧
      s'.records = Activity.recordingAfter s.records (e.effect?.toList : List (Effect α)) := by
  obtain ⟨c, hc, -⟩ := h.held k hk
  obtain ⟨hcrashed, hnext⟩ := step_eq_some.1 hstep
  rw [VideoSurfaceView.records_of_some hk hc]
  cases e with
  | surfaceCreated o => cases he
  | surfaceDestroyed => cases he
  | closeVideo => cases he
  | startRecod =>
    cases hnext
    rw [h.startRecod_eq hk]
    exact ⟨hk, records_modify hk hc⟩
  | stopRecord =>
    cases hnext
    rw [h.stopRecord_eq hk]
    exact ⟨hk, records_modify hk hc⟩
  | postFrame j =>
    simp only [next] at hnext
    split_ifs at hnext with hpost
    cases hnext
    obtain rfl : k = j := Option.some.inj (hk.symm.trans (h.postFrame hpost).1)
    exact ⟨hk, records_modify hk hc⟩
  | handleFrame =>
    obtain ⟨j, frames, hframes⟩ := exists_frames_of_step hstep
    rw [h.step_handleFrame_of_some hk hcrashed hframes] at hstep
    cases hstep
    refine ⟨hk, ?_⟩
    split_ifs
    · exact records_modify hk hc
    · exact VideoSurfaceView.records_of_some hk hc

/-- Without a camera, every step leaves the view without one. -/
theorem mCamera_of_none (hnone : s.mCamera = none) (he : e.keepsSurface = true)
    (hstep : s.step e = some s') : s'.mCamera = none := by
  obtain ⟨hcrashed, hnext⟩ := step_eq_some.1 hstep
  cases e with
  | surfaceCreated o => cases he
  | surfaceDestroyed => cases he
  | closeVideo => cases he
  | startRecod =>
    cases hnext
    rwa [startRecod, hnone]
  | stopRecord =>
    cases hnext
    rwa [stopRecord, hnone]
  | postFrame j =>
    simp only [next] at hnext
    split_ifs at hnext
    cases hnext
    exact hnone
  | handleFrame =>
    obtain ⟨j, frames, hframes⟩ := exists_frames_of_step hstep
    rw [step_handleFrame_of_none hnone hcrashed hframes] at hstep
    cases hstep
    exact hnone

/-- A surface that is created or destroyed ends the recording. -/
theorem Ledger.records_of_not_keepsSurface (h : s.Ledger) (he : e.keepsSurface = false)
    (hstep : s.step e = some s') : s'.records = false := by
  cases e with
  | surfaceCreated o =>
    obtain ⟨-, -, hsame, hnew⟩ := h.surfaceCreated hstep
    rcases Option.eq_none_or_eq_some s'.mCamera with hk | ⟨k, hk⟩
    · exact records_of_none hk
    · rw [records, hk, Option.any_some, hsame.hands, hands, hnew k hk, Option.any_none]
  | surfaceDestroyed => exact records_of_none (h.closes (Or.inl rfl) hstep).2.1
  | closeVideo => exact records_of_none (h.closes (Or.inr rfl) hstep).2.1
  | _ => cases he

end Records

end VideoSurfaceView

/-- **What the calls count as recording** is what the camera does, as long as the surface stays. In
every run the camera has the callback exactly if there is a camera and the last of the calls'
effects since the surface was created has left the view recording. -/
theorem records_of_exec {s : VideoSurfaceView} {events : List ViewEvent}
    (hexec : videoSurfaceView.exec .created events = some s) :
    s.records = (s.mCamera.isSome && Activity.recordingAfter false
      ((events.rtakeWhile ViewEvent.keepsSurface).filterMap ViewEvent.effect? :
        List (Effect α))) := by
  refine (TransitionSystem.exec_invariant (T := videoSurfaceView)
    (I := fun events s ↦ s.Ledger ∧ s.records = (s.mCamera.isSome && Activity.recordingAfter false
      ((events.rtakeWhile ViewEvent.keepsSurface).filterMap ViewEvent.effect? : List (Effect α))))
    ⟨VideoSurfaceView.ledger_created, rfl⟩ (fun events s e s' hs hstep ↦ ?_) hexec).2
  obtain ⟨hledger, hrecords⟩ := hs
  refine ⟨hledger.step hstep, ?_⟩
  cases he : e.keepsSurface with
  | false =>
    rw [hledger.records_of_not_keepsSurface he hstep,
      List.rtakeWhile_concat_neg _ _ _ (by simp [he]), List.filterMap_nil]
    exact (Bool.and_false _).symm
  | true =>
    rw [List.rtakeWhile_concat_pos _ _ _ he, List.filterMap_append]
    rcases Option.eq_none_or_eq_some s.mCamera with hk | ⟨k, hk⟩
    · have hnone := VideoSurfaceView.mCamera_of_none hk he hstep
      rw [VideoSurfaceView.records_of_none hnone, hnone]
      rfl
    · obtain ⟨hk', heffect⟩ := hledger.records_of_some (α := α) hk he hstep
      rw [hk, Option.isSome_some, Bool.true_and] at hrecords
      rw [heffect, hrecords, hk', Option.isSome_some, Bool.true_and, Activity.recordingAfter,
        Activity.recordingAfter, Activity.recordingAfter, List.foldl_append, List.filterMap_cons]
      cases e.effect? <;> rfl

/-- A call is accepted before there is a surface, and another one afterwards. -/
theorem records_of_exec_accepted : ∃ s s' : VideoSurfaceView,
    videoSurfaceView.exec .created [.startRecod, .surfaceCreated .opens] = some s ∧
      s.mCamera.isSome = true ∧ s.records = false ∧
      videoSurfaceView.exec .created [.startRecod, .surfaceCreated .opens, .stopRecord,
        .startRecod, .postFrame 0] = some s' ∧ s'.records = true := by
  obtain ⟨s, s', hexec, hcamera, hexec', hcamera'⟩ : ∃ s s' : VideoSurfaceView,
      videoSurfaceView.exec .created [.startRecod, .surfaceCreated .opens] = some s ∧
      s.mCamera.isSome = true ∧
      videoSurfaceView.exec .created [.startRecod, .surfaceCreated .opens, .stopRecord,
        .startRecod, .postFrame 0] = some s' ∧ s'.mCamera.isSome = true :=
    ⟨_, _, rfl, rfl, rfl, rfl⟩
  refine ⟨s, s', hexec, hcamera, ?_, hexec', ?_⟩
  · rw [records_of_exec (α := ℕ) hexec, hcamera]
    rfl
  · rw [records_of_exec (α := ℕ) hexec', hcamera']
    rfl

end DoorIntercom
