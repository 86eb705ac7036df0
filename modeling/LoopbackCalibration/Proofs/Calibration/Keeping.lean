import LoopbackCalibration.Proofs.Calibration.Work

/-! # What a run keeps

A run gives a device the commands of the setup and others that no device refuses for their value.
So whatever the calls of a rig keep, given such commands, is kept by a whole run, whether it gives
an outcome or fails anywhere (`Rig.Keeps.run`).
-/

namespace LoopbackCalibration

open Action

variable {σ η α : Type}

/-- Whatever a rig is made to do keeps an invariant, whether it fails or not, as long as it is
given no other commands than the allowed ones. -/
structure Rig.Keeps (rig : Rig σ η α) (allowed : Command α → Prop) (invariant : σ → Prop) :
    Prop where
  command : ∀ command, allowed command → ∀ world, invariant world →
    invariant (rig.command command world).2
  openStream : ∀ channels world, invariant world → invariant (rig.openStream channels world).2
  activate : ∀ stream count world, invariant world → invariant (rig.activate stream count world).2
  read : ∀ stream rooms wait world, invariant world →
    invariant (rig.read stream rooms wait world).2
  closeStream : ∀ stream world, invariant world → invariant (rig.closeStream stream world).2
  now : ∀ world, invariant world → invariant (rig.now world).2
  note : ∀ trial world, invariant world → invariant (rig.note trial world)

namespace Rig.Keeps

variable {rig : Rig σ η α} {allowed : Command α → Prop} {invariant : σ → Prop}
  (keeps : rig.Keeps allowed invariant) {config : Config α}

include keeps

private theorem serves (stream : η) : rig.Serves stream invariant fun _ => invariant where
  activate count := .of_keeps (keeps.activate stream count)
  read rooms wait := by
    refine (Ensures.of_keeps (keeps.read stream rooms wait)).weaken (fun _ => id) (fun _ _ => id)
      fun status world kept => ?_
    split_ifs
    · exact kept
    · exact fun _ => kept
  now := keeps.now

private theorem works_issueDuring (stage : Stage) {commands : List (Command α)}
    (given : ∀ command ∈ commands, allowed command) (work : Work) :
    Calibration.Works (fun _ => invariant) (fun _ => invariant) work
      (Calibration.issueDuring rig stage commands) work := by
  refine ensures_forEach fun command member => Ensures.mapError ?_
  exact Progress.ensures_onWorld (.of_keeps (keeps.command command (given command member)))

private theorem works_capture [Arithmetic α] (stream : η) (work : Work) :
    Calibration.Works (fun _ => invariant) (fun _ => invariant) work
      (Calibration.capture rig config stream) work.capture := by
  intro progress holds
  -- A world that is left early is one that the invariant holds of, whatever the cause.
  have reported : ∀ (halt : Halt AcquisitionError) world,
      halt.Leaves invariant (fun _ => invariant) AcquisitionError.GivesUp world →
        invariant world := by
    rintro (cause | _) world leaves
    · exact leaves.elim id And.right
    · exact leaves
  have captures : Ensures (Calibration.At progress.stage invariant)
      (Calibration.capture rig config stream) (fun _ => Calibration.At progress.stage invariant)
      fun _ => Calibration.At progress.stage invariant :=
    Calibration.ensures_capture ((keeps.serves stream).bursts _ _) reported
  exact (captures.weaken (fun _ => id) (fun _ _ => And.right) fun _ _ => And.right) progress
    ⟨rfl, holds⟩

private theorem performs [Arithmetic α] (stream : η)
    (unrefused : ∀ command : Command α, command.refusable = false → allowed command) :
    Calibration.Performs rig config stream (fun _ => invariant) fun _ => invariant where
  issue _ given work progress :=
    keeps.works_issueDuring progress.stage
      (fun command member => unrefused command (given command member)) work progress
  capture := keeps.works_capture stream
  now _ := keeps.now
  note trial _ := keeps.note trial
  overflow _ _ _ := id

/-- **What every call keeps, a run keeps,** however it ends. -/
theorem run [Scalar α]
    (unrefused : ∀ command : Command α, command.refusable = false → allowed command)
    (setup : ∀ command ∈ config.setup, allowed command) (frequency : α) {progress : Progress σ}
    (start : invariant progress.world) :
    invariant (Calibration.run rig config frequency progress).2.world := by
  have opens := Ensures.of_keeps (keeps.openStream Channel.all)
  have closes stream := Ensures.of_keeps (keeps.closeStream stream)
  have runs := Calibration.works_run (fun _ => True) frequency ⟨0, 0⟩
    (fun stream _ => keeps.performs stream unrefused)
    (keeps.works_issueDuring .initial setup ⟨0, 0⟩)
    (opens.weaken (fun _ => id) (fun _ _ kept => ⟨trivial, kept⟩) fun _ _ => id)
    (fun stream _ => closes stream) (fun stream _ => closes stream) progress start
  rcases ended : Calibration.run rig config frequency progress with ⟨_ | _, after⟩ <;>
    rw [ended] at runs
  · exact runs
  · exact runs.2

end Rig.Keeps

end LoopbackCalibration
