import LoopbackCalibration.Proofs.Acquisition.Course
import LoopbackCalibration.Proofs.Calibration.Conduct

/-! # The captures of an outcome

What is known of every capture that a calibration takes is known of the captures that its
outcome holds (`Calibration.known_calibrate`, `Calibration.known_run`). Every capture is
complete, on any rig (`Calibration.complete_capture`).
-/

namespace LoopbackCalibration

open Action

variable {σ η α : Type}

/-- The block has as many samples on both channels as a capture is to have, and no more than a
buffer can hold. -/
structure Config.Complete (config : Config α) (block : SampleBlock α) : Prop where
  size_eq : ∀ channel, (block.samples channel).size = config.samplesPerCapture
  fits : config.samplesPerCapture ≤ Acquisition.capacity

/-- Something is known of all captures. -/
structure StageCaptures.Known (known : SampleBlock α → Prop) (captures : StageCaptures α) :
    Prop where
  rxInitial : known captures.rxInitial
  rxFinal : known captures.rxFinal
  txInitial : known captures.txInitial
  txFinal : known captures.txFinal

theorem RawCapture.size_get (raw : RawCapture α) (channel : Channel) :
    (raw.channels.get channel).size = raw.size := by
  cases channel with
  | a => rfl
  | b => exact raw.sameSize.symm

theorem RawCapture.size_samples_block [Arithmetic α] (raw : RawCapture α) (channel : Channel) :
    (raw.block.samples channel).size = raw.size := by
  rw [block, SampleBlock.samples, SampleBlock.ofRaw, PerChannel.get_map, Samples.size_removeMean,
    raw.size_get]

namespace Acquisition

variable [Arithmetic α] (rig : Rig σ η α) (stream : η) (options : AcquisitionOptions)

theorem size_collect {requested deadline : Nat} {raw whole : RawCapture α}
    (bounded : raw.size ≤ requested) {world after : σ}
    (collects : collect rig stream options requested deadline raw world = (.ok whole, after)) :
    whole.size = requested := by
  obtain ⟨turns, last, gathered, failure, _, course, ends, gathers, run⟩ :=
    exists_course ⟨rig, stream, options, requested, deadline⟩ raw bounded world
  rw [collects] at run
  cases failure with
  | some cause => cases congrArg Prod.fst run
  | none =>
      obtain rfl : whole = gathered := Except.ok.inj (congrArg Prod.fst run)
      exact (gathers.size_eq.trans course.held_eq.symm).trans (ends.eq_none_iff.mp rfl)

theorem complete_acquire (requested : Nat) :
    Ensures (fun _ => True) (acquire rig stream requested options)
      (fun block _ => (∀ channel, (block.samples channel).size = requested) ∧
        requested ≤ capacity) fun _ _ => True := by
  intro world _
  unfold acquire
  rcases rig.activate stream requested world with ⟨_ | _, started⟩
  · trivial
  · dsimp only
    split_ifs with large late
    · trivial
    · trivial
    · rcases collects : collect rig stream options requested _ _ _ with ⟨_ | raw, after⟩
      · trivial
      · exact ⟨fun channel => (raw.size_samples_block channel).trans
          (size_collect rig stream options (Nat.zero_le _) collects), Nat.not_lt.mp large⟩

end Acquisition

namespace Calibration

variable [Scalar α] (rig : Rig σ η α) (config : Config α)

theorem complete_capture (stream : η) :
    Ensures (fun _ => True) (capture rig config stream) (fun block _ => config.Complete block)
      fun _ _ => True :=
  fun progress => Ensures.mapError ((Acquisition.complete_acquire (Progress.rig rig) stream
    config.acquisitionOptions config.samplesPerCapture).weaken (fun _ => id)
      (fun _ _ filled => ⟨filled.1, filled.2⟩) fun _ _ => id) progress

variable {rig config} {known : SampleBlock α → Prop}

/-- **The captures of a calibration.** What is known of every capture is known of those in the
outcome. -/
theorem known_calibrate {stream : η} (frequency : α)
    (knows : Ensures (fun _ => True) (capture rig config stream) (fun block _ => known block)
      fun _ _ => True) :
    Ensures (fun _ => True) (calibrate rig config frequency stream)
      (fun outcome _ => outcome.captures.Known known) fun _ _ => True := by
  have takes : Ensures (fun _ => True) (capture rig config stream)
      (fun block _ => known block ∧ True) fun _ _ => True :=
    knows.known_and (ensures_true _)
  unfold calibrate
  refine (ensures_true _).bind fun started => ?_
  refine (ensures_true _).bind fun _ => ?_
  refine (ensures_true _).bind fun _ => ?_
  refine (ensures_true _).bind fun _ => ?_
  refine (ensures_true _).bind fun rxPgaGain => ?_
  refine (ensures_true _).bind fun _ => ?_
  refine takes.bind fun rxInitial => Ensures.of_and fun rxInitialKnown => ?_
  refine (ensures_true _).bind fun rxIq => ?_
  refine (ensures_true _).bind fun _ => ?_
  refine takes.bind fun rxFinal => Ensures.of_and fun rxFinalKnown => ?_
  refine (ensures_true _).bind fun _ => ?_
  refine (ensures_true _).bind fun _ => ?_
  refine takes.bind fun txInitial => Ensures.of_and fun txInitialKnown => ?_
  refine (ensures_true _).bind fun tx => ?_
  refine (ensures_true _).bind fun _ => ?_
  refine (ensures_true _).bind fun _ => ?_
  refine takes.bind fun txFinal => Ensures.of_and fun txFinalKnown => ?_
  refine (ensures_true _).bind fun _ => ?_
  refine (ensures_true _).bind fun candidates => ?_
  refine (ensures_true _).bind fun finished => ?_
  exact ensures_pure _ fun _ _ => ⟨rxInitialKnown, rxFinalKnown, txInitialKnown, txFinalKnown⟩

theorem known_run (frequency : α)
    (knows : ∀ stream, Ensures (fun _ => True) (capture rig config stream)
      (fun block _ => known block) fun _ _ => True) :
    Ensures (fun _ => True) (run rig config frequency)
      (fun outcome _ => outcome.captures.Known known) fun _ _ => True := by
  unfold run
  refine (ensures_true _).bind fun _ => ?_
  refine ensures_withStream (ensures_true _)
    (fun stream => known_calibrate frequency (knows stream))
    (fun stream outcome world held => ?_) fun _ _ => ensures_true _
  rcases (Progress.rig rig).closeStream stream world with ⟨_ | _, after⟩
  · trivial
  · exact held

end Calibration

end LoopbackCalibration
