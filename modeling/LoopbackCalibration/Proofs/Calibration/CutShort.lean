import Mathlib.Tactic.SplitIfs
import LoopbackCalibration.Proofs.Action.CutShort
import LoopbackCalibration.Proofs.Calibration.Agree

/-! # Runs without stop requests

A stop request does nothing to a run but end it. On every rig a run either is the run that is made
when stop requests are ignored, or it is cut short and reports that it was cancelled
(`Calibration.cutShort_run`).
-/

namespace LoopbackCalibration

open Action

variable {σ η α β ε : Type}

/-- The rig with its stop requests ignored. -/
def Rig.unstopped (rig : Rig σ η α) : Rig σ η α := { rig with stopRequested := fun _ => false }

section Unstopped

variable (rig : Rig σ η α)

@[simp] theorem Rig.unstopped_toTransceiver : rig.unstopped.toTransceiver = rig.toTransceiver := rfl

@[simp] theorem Rig.unstopped_now : rig.unstopped.now = rig.now := rfl

end Unstopped

/-- A capture of the calibration was cancelled. -/
def CalibrationError.Cancelled : CalibrationError → Prop
  | .acquisition _ source => source.isCancelled
  | _ => False

namespace Acquisition

variable [Arithmetic α]

/-- Reading for a capture. Induction on the rounds of the loop; without a stop request they are
the same. -/
theorem cutShort_collect (rig : Rig σ η α) (stream : η) (options : AcquisitionOptions)
    (requested deadline : Nat) (raw : RawCapture α) :
    CutShort (fun error => error.isCancelled)
      (collect rig stream options requested deadline raw)
      (collect rig.unstopped stream options requested deadline raw) := by
  have ignored : ∀ {world}, ¬(options.cancelled || rig.stopRequested world) = true →
      ¬(options.cancelled || rig.unstopped.stopRequested world) = true :=
    fun wanted stopped => wanted (by rw [(Bool.or_false _).symm.trans stopped, Bool.true_or])
  intro world
  fun_induction collect rig stream options requested deadline raw world with
  | case1 raw world complete => exact .inl (collect_complete _ _ _ complete _).symm
  | case2 raw world missing stopped => exact .inr ⟨.cancelled raw.size, world, rfl, rfl⟩
  | case3 raw world missing wanted instant looked look late =>
      rw [collect_eq, if_neg missing, if_neg (ignored wanted), Rig.unstopped_now, look, if_pos late]
      exact .inl rfl
  | case4 raw world missing wanted instant looked look early room wait delivery after read ih =>
      rw [collect_of_read missing (ignored wanted) look early read]
      exact ih
  | case5 raw world missing wanted instant looked look early room wait status after read again
      ih =>
      rw [collect_of_read missing (ignored wanted) look early read]
      simp only [again, if_true]
      exact ih
  | case6 raw world missing wanted instant looked look early room wait status after read fatal =>
      rw [collect_of_read missing (ignored wanted) look early read]
      exact .inl (if_neg fatal).symm

theorem cutShort_acquire (rig : Rig σ η α) (stream : η) (requested : Nat)
    (options : AcquisitionOptions) :
    CutShort (Halt.IsError fun error => error.isCancelled)
      (acquire rig stream requested options) (acquire rig.unstopped stream requested options) := by
  intro world
  rcases started : rig.activate stream requested world with ⟨_ | _, after⟩
  · unfold acquire
    rw [Rig.unstopped_toTransceiver, started]
    exact .inl rfl
  · have started' : rig.unstopped.activate stream requested world = (.ok (), after) := started
    rw [acquire_of_started started, acquire_of_started started', Rig.unstopped_now]
    split_ifs
    · exact .inl rfl
    · exact .inl rfl
    · exact ((cutShort_collect rig stream options requested _ _).bind
        fun raw => cutShort_refl _).mapError (fun _ => id) _

end Acquisition

/-- A computation with an open stream is cut short where the computation is. -/
theorem cutShort_withStream {rig : Rig σ η α} {openFailed closeFailed : DeviceError → ε}
    {excused : ε → Prop} {body whole : η → Action σ ε β}
    (each : ∀ stream, CutShort excused (body stream) (whole stream)) :
    CutShort excused (withStream rig openFailed closeFailed body)
      (withStream rig openFailed closeFailed whole) := by
  intro world
  unfold withStream
  rcases rig.openStream Channel.all world with ⟨_ | stream, opened⟩
  · exact .inl rfl
  · dsimp only
    rcases each stream opened with same | ⟨cause, after, stopped, exempt⟩
    · rw [same]
      exact .inl rfl
    · rw [stopped]
      exact .inr ⟨cause, _, rfl, exempt⟩

namespace Calibration

/-- A calibration stops because it was cancelled. -/
abbrev Cancels : Halt CalibrationError → Prop := Halt.IsError CalibrationError.Cancelled

variable [Scalar α] (rig : Rig σ η α) (config : Config α) (stream : η)

theorem cutShort_capture :
    CutShort Cancels (capture rig config stream) (capture rig.unstopped config stream) := by
  intro progress
  refine (Acquisition.cutShort_acquire (Progress.rig rig) stream config.samplesPerCapture
    config.acquisitionOptions).mapError ?_ progress
  rintro (cause | _) cancelled
  · exact cancelled
  · exact cancelled

theorem cutShort_adjustGain :
    CutShort Cancels (adjustGain rig config stream) (adjustGain rig.unstopped config stream) :=
  (cutShort_refl _).bind fun _ => (cutShort_capture rig config stream).bind
    fun _ => cutShort_refl _

theorem cutShort_searchReceive :
    CutShort Cancels (searchReceive rig config stream)
      (searchReceive rig.unstopped config stream) :=
  Descent.cutShort_tryGrids (fun _ _ _ => (cutShort_refl _).bind fun _ =>
    (cutShort_capture rig config stream).bind fun _ => cutShort_refl _) _ _

theorem cutShort_searchTransmit :
    CutShort Cancels (searchTransmit rig config stream)
      (searchTransmit rig.unstopped config stream) :=
  Descent.cutShort_tryGrids (fun _ _ _ => (cutShort_refl _).bind fun _ =>
    (cutShort_capture rig config stream).bind fun _ => cutShort_refl _) _ _

theorem cutShort_calibrate (frequency : α) :
    CutShort Cancels (calibrate rig config frequency stream)
      (calibrate rig.unstopped config frequency stream) := by
  unfold calibrate
  refine (cutShort_refl _).bind fun started => ?_
  refine (cutShort_refl _).bind fun _ => ?_
  refine (cutShort_refl _).bind fun _ => ?_
  refine (cutShort_refl _).bind fun _ => ?_
  refine (cutShort_adjustGain rig config stream).bind fun rxPgaGain => ?_
  refine (cutShort_refl _).bind fun _ => ?_
  refine (cutShort_capture rig config stream).bind fun rxInitial => ?_
  refine (cutShort_searchReceive rig config stream).bind fun rxIq => ?_
  refine (cutShort_refl _).bind fun _ => ?_
  refine (cutShort_capture rig config stream).bind fun rxFinal => ?_
  refine (cutShort_refl _).bind fun _ => ?_
  refine (cutShort_refl _).bind fun _ => ?_
  refine (cutShort_capture rig config stream).bind fun txInitial => ?_
  refine (cutShort_searchTransmit rig config stream).bind fun tx => ?_
  refine (cutShort_refl _).bind fun _ => ?_
  refine (cutShort_refl _).bind fun _ => ?_
  exact (cutShort_capture rig config stream).bind fun txFinal => cutShort_refl _

/-- **Stop requests do nothing but end a run.** A run comes to the result of the run without stop
requests and leaves the same device, or it reports that it was cancelled. -/
theorem cutShort_run (frequency : α) :
    CutShort Cancels (run rig config frequency) (run rig.unstopped config frequency) := by
  have streams (openFailed closeFailed : DeviceError → Halt CalibrationError) :
      CutShort Cancels
        (withStream (Progress.rig rig) openFailed closeFailed (calibrate rig config frequency))
        (withStream (Progress.rig rig.unstopped) openFailed closeFailed
          (calibrate rig.unstopped config frequency)) :=
    cutShort_withStream fun stream => cutShort_calibrate rig config stream frequency
  exact (cutShort_refl _).bind fun _ => streams _ _

end Calibration

end LoopbackCalibration
