import Mathlib.Tactic.SplitIfs
import LoopbackCalibration.Proofs.Acquisition.Conduct
import LoopbackCalibration.Proofs.Calibration.Stages

/-! # The passage of a calibration

What holds of the world from call to call of a calibration may depend on the stage that the
calibration is in and on how many captures it has taken. What the whole calibration makes of the
world is put together from what each call makes of it (`Calibration.Proceeds.calibrate`).
-/

namespace LoopbackCalibration

open Action

variable {σ η α β ε : Type}

/-- The points of one of both searches are half of the candidates. -/
theorem Config.two_mul_sum_grids [Arithmetic α] (config : Config α) :
    2 * (config.grids.map Grid.size).sum = config.candidates := by
  have sizes : config.grids.map Grid.size =
      List.replicate config.searchDepths.size (config.grid 0).size := by
    rw [grids, List.map_map, DepthRange.toList]
    refine List.eq_replicate_iff.mpr ⟨by simp, fun size member => ?_⟩
    obtain ⟨depth, -, rfl⟩ := List.mem_map.mp member
    rfl
  rw [sizes, List.sum_const_nat, candidates, Nat.mul_assoc]

namespace Calibration

/-- The run is in a stage, and its world is sound. -/
def At (stage : Stage) (sound : σ → Prop) (progress : Progress σ) : Prop :=
  progress.stage = stage ∧ sound progress.world

theorem ensures_onWorld_at {action : Action σ ε β} {sound : σ → Prop} {success : β → σ → Prop}
    {failure : ε → σ → Prop} (ensures : Ensures sound action success failure) (stage : Stage) :
    Ensures (At stage sound) (Progress.onWorld action)
      (fun value => At stage (success value)) fun cause => At stage (failure cause) := by
  rintro progress ⟨rfl, holds⟩
  have reached := ensures progress.world holds
  unfold Progress.onWorld Action.onPart
  rcases outcome : action progress.world with ⟨_ | _, after⟩ <;> rw [outcome] at reached <;>
    exact ⟨rfl, reached⟩

/-- Commands that belong to one stage, carried out while the run is in any stage. They stop
only where one fails. -/
theorem ensures_issueDuring {rig : Rig σ η α} {stage : Stage} {sound : σ → Prop}
    {broken : CalibrationError → σ → Prop}
    (command : ∀ command, Ensures sound (rig.command command) (fun _ => sound)
      fun cause => broken (.configuration stage cause))
    (commands : List (Command α)) (current : Stage) :
    Ensures (At current sound) (issueDuring rig stage commands) (fun _ => At current sound)
      fun halt progress => ∃ error, halt = .error error ∧ At current (broken error) progress := by
  refine ensures_forEach fun issued _ => Ensures.mapError ?_
  exact (ensures_onWorld_at (command issued) current).weaken (fun _ => id) (fun _ _ => id)
    fun cause _ failed => ⟨.configuration stage cause, rfl, failed⟩

section Captures

variable {rig : Rig σ η α} {stream : η} {requested : Nat} {options : AcquisitionOptions}
  {before : σ → Prop} {holding cleared : Nat → σ → Prop}

private theorem bursts_progress {stopped : Halt AcquisitionError → σ → Prop}
    (bursts : rig.Bursts stream requested options before holding cleared stopped)
    (stage : Stage) :
    (Progress.rig rig).Bursts stream requested options (At stage before)
      (fun held => At stage (holding held)) (fun held => At stage (cleared held))
      fun halt => At stage (stopped halt) where
  activate := ensures_onWorld_at bursts.activate stage
  now _ := And.imp_right (bursts.now _)
  overflow _ := And.imp_right (bursts.overflow _)
  cancelled held _ missing wanted := And.imp_right (bursts.cancelled held _ missing wanted)
  clears held _ missing wanted := And.imp_right (bursts.clears held _ missing wanted)
  late held _ := And.imp_right (bursts.late held _)
  read held wait missing := by
    refine (ensures_onWorld_at (bursts.read held wait missing) stage).weaken (fun _ => id)
      (fun _ _ => id) ?_
    rintro status after ⟨stage_eq, reached⟩
    split_ifs at reached ⊢
    · exact ⟨stage_eq, reached⟩
    · exact ⟨stage_eq, reached⟩

/-- A capture that is part of a stage. -/
theorem ensures_capture [Arithmetic α] {config : Config α} {stage : Stage}
    {halted : Halt AcquisitionError → σ → Prop} {stopped : Halt CalibrationError → σ → Prop}
    (bursts : rig.Bursts stream config.samplesPerCapture config.acquisitionOptions before holding
      cleared halted)
    (reported : ∀ halt world, halted halt world → stopped (halt.map (.acquisition stage)) world) :
    Ensures (At stage before) (capture rig config stream)
      (fun _ => At stage (holding config.samplesPerCapture))
      fun halt => At stage (stopped halt) := by
  rintro progress ⟨rfl, holds⟩
  refine Ensures.mapError ((bursts_progress bursts progress.stage).acquire.weaken (fun _ => id)
    (fun _ _ => id) ?_) progress ⟨rfl, holds⟩
  exact fun halt after => And.imp_right (reported halt after.world)

end Captures

/-- From call to call of a calibration the world is sound for the stage and for the captures
taken so far, or the calibration has stopped in a stage. -/
structure Proceeds [Arithmetic α] (watch : Stage → σ → σ) (rigs : Stage → Rig σ η α)
    (config : Config α) (stream : η) (before : σ → Prop) (sound : Stage → Nat → σ → Prop)
    (stopped : Stage → Halt CalibrationError → σ → Prop) : Prop where
  started : ∀ world, before world → before ((rigs .initial).now world).2
  enters : ∀ world, before world → sound .initial 0 (watch .initial world)
  advances : ∀ stage next taken world, stage.next? = some next → sound stage taken world →
    sound next taken (watch next world)
  command : ∀ stage taken command, Ensures (sound stage taken) ((rigs stage).command command)
    (fun _ => sound stage taken) fun cause => stopped stage (.error (.configuration stage cause))
  capture : ∀ stage taken, taken < 5 + config.candidates →
    Ensures (At stage (sound stage taken)) (capture (rigs stage) config stream)
      (fun _ => At stage (sound stage (taken + 1))) fun halt => At stage (stopped stage halt)
  now : ∀ stage taken world, sound stage taken world →
    sound stage taken ((rigs stage).now world).2
  note : ∀ stage taken trial world, sound stage taken world →
    sound stage taken ((rigs stage).note trial world)
  overflow : ∀ stage taken world, sound stage taken world → stopped stage .overflow world

/-- What a step does from one stage and number of captures to another. -/
abbrev Passes (sound : Stage → Nat → σ → Prop)
    (stopped : Stage → Halt CalibrationError → σ → Prop) (stage : Stage) (taken : Nat)
    (step : Step σ β) (next : Stage) (later : Nat) : Prop :=
  Ensures (At stage (sound stage taken)) step (fun _ => At next (sound next later))
    fun halt progress => stopped progress.stage halt progress.world

namespace Proceeds

variable [Scalar α] {watch : Stage → σ → σ} {rigs : Stage → Rig σ η α} {config : Config α}
  {stream : η} {before : σ → Prop} {sound : Stage → Nat → σ → Prop}
  {stopped : Stage → Halt CalibrationError → σ → Prop}
  (proceeds : Proceeds watch rigs config stream before sound stopped)

private theorem passes_pure (value : β) (stage : Stage) (taken : Nat) :
    Passes sound stopped stage taken (Action.pure value) stage taken :=
  ensures_pure value fun _ => id

include proceeds

private theorem advance {stage next : Stage} (follows : stage.next? = some next) (taken : Nat)
    {rest : Step σ β} {last : Stage} {later : Nat}
    (continues : Passes sound stopped next taken rest last later) :
    Passes sound stopped stage taken
      (Action.bind advance fun _ => Action.bind (reveal watch) fun _ => rest) last later := by
  rintro progress ⟨rfl, holds⟩
  have stage_eq : progress.stage.next?.getD progress.stage = next := by
    rw [follows, Option.getD_some]
  have shown : At next (sound next taken) ⟨next, watch next progress.world⟩ :=
    ⟨rfl, proceeds.advances _ _ _ _ follows holds⟩
  have reached := continues _ shown
  rw [← stage_eq] at reached
  exact reached

private theorem issue (stage : Stage) (taken : Nat) (commands : List (Command α)) :
    Passes sound stopped stage taken (Calibration.issue (rigs stage) commands) stage taken := by
  rintro progress ⟨rfl, holds⟩
  have issues : Ensures (At progress.stage (sound progress.stage taken))
      (issueDuring (rigs progress.stage) progress.stage commands)
      (fun _ => At progress.stage (sound progress.stage taken))
      fun halt after => ∃ error, halt = .error error ∧
        At progress.stage (stopped progress.stage (.error error)) after :=
    ensures_issueDuring (proceeds.command progress.stage taken) commands progress.stage
  refine issues.weaken (fun _ => id) (fun _ _ => id) ?_ progress ⟨rfl, holds⟩
  rintro _ after ⟨error, rfl, stage_eq, failed⟩
  exact stage_eq ▸ failed

private theorem takes (stage : Stage) (taken : Nat) (early : taken < 5 + config.candidates) :
    Passes sound stopped stage taken (Calibration.capture (rigs stage) config stream) stage
      (taken + 1) := by
  refine (proceeds.capture stage taken early).weaken (fun _ => id) (fun _ _ => id) ?_
  rintro halt after ⟨rfl, halted⟩
  exact halted

private theorem clock (stage : Stage) (taken : Nat) :
    Passes sound stopped stage taken (Calibration.clock (rigs stage)) stage taken :=
  fun _ => And.imp_right (proceeds.now stage taken _)

private theorem tell (stage : Stage) (taken : Nat) (trial : Trial α) :
    Passes sound stopped stage taken (Calibration.note (rigs stage) trial) stage taken :=
  fun _ => And.imp_right (proceeds.note stage taken trial _)

private theorem adjustGain (stage : Stage) (taken : Nat) (early : taken < 5 + config.candidates) :
    Passes sound stopped stage taken (Calibration.adjustGain (rigs stage) config stream) stage
      (taken + 1) := by
  refine (proceeds.issue stage taken _).bind fun _ => ?_
  refine (proceeds.takes stage taken early).bind fun block => ?_
  refine (proceeds.issue stage _ _).bind fun _ => ?_
  exact passes_pure _ stage _

/-- A search whose trials each take a capture. -/
private theorem tryGrids {attempt : β → TestPoint α → β → Step σ β} (stage : Stage) (taken : Nat)
    (each : ∀ tried < 5 + config.candidates, ∀ start point found,
      Passes sound stopped stage tried (attempt start point found) stage (tried + 1))
    (within : taken + (config.grids.map Grid.size).sum ≤ 5 + config.candidates) (found : β) :
    Passes sound stopped stage taken (Descent.tryGrids attempt config.grids found) stage
      (taken + (config.grids.map Grid.size).sum) := by
  refine Descent.ensures_tryGrids_within each (fun grid member excess tried found progress => ?_)
    taken found within
  rintro ⟨rfl, holds⟩
  exact proceeds.overflow _ _ _ holds

private theorem searchReceive (stage : Stage) (taken : Nat)
    (within : taken + (config.grids.map Grid.size).sum ≤ 5 + config.candidates) :
    Passes sound stopped stage taken (Calibration.searchReceive (rigs stage) config stream) stage
      (taken + (config.grids.map Grid.size).sum) := by
  refine proceeds.tryGrids stage taken (fun tried early start point found => ?_) within _
  refine (proceeds.issue stage tried _).bind fun _ => ?_
  refine (proceeds.takes stage tried early).bind fun block => ?_
  refine (proceeds.tell stage _ _).bind fun _ => ?_
  exact passes_pure _ stage _

private theorem searchTransmit (stage : Stage) (taken : Nat)
    (within : taken + (config.grids.map Grid.size).sum ≤ 5 + config.candidates) :
    Passes sound stopped stage taken (Calibration.searchTransmit (rigs stage) config stream) stage
      (taken + (config.grids.map Grid.size).sum) := by
  refine proceeds.tryGrids stage taken (fun tried early start point found => ?_) within _
  refine (proceeds.issue stage tried _).bind fun _ => ?_
  refine (proceeds.takes stage tried early).bind fun block => ?_
  refine (proceeds.tell stage _ _).bind fun _ => ?_
  exact passes_pure _ stage _

private theorem countCandidates (stage : Stage) (taken : Nat) :
    Passes sound stopped stage taken (Calibration.countCandidates config) stage taken := by
  unfold Calibration.countCandidates
  split_ifs
  · exact passes_pure _ stage taken
  · exact ensures_fail _ fun progress ⟨stage_eq, holds⟩ =>
      stage_eq ▸ proceeds.overflow stage taken _ holds

/-- **The passage of a calibration.** A calibration that gives an outcome has passed through all
stages and taken five captures and one for each candidate. -/
theorem calibrate (frequency : α) (current : Stage) :
    Ensures (At current before) (calibrateWatched watch rigs config frequency stream)
      (fun _ => At .done (sound .done (5 + config.candidates)))
      fun halt progress => stopped progress.stage halt progress.world := by
  -- the clock is looked at before the first stage is entered
  have begins : Ensures (At current before) (Calibration.clock (rigs .initial))
      (fun _ => At current before)
      fun halt progress => stopped progress.stage halt progress.world :=
    fun _ => And.imp_right (proceeds.started _)
  have enters {rest : Step σ (Outcome α)}
      (continues : Passes sound stopped .initial 0 rest .done (5 + config.candidates)) :
      Ensures (At current before)
        (Action.bind (enter .initial) fun _ => Action.bind (reveal watch) fun _ => rest)
        (fun _ => At .done (sound .done (5 + config.candidates)))
        fun halt progress => stopped progress.stage halt progress.world :=
    fun _ holds => continues _ ⟨rfl, proceeds.enters _ holds.2⟩
  have points := config.two_mul_sum_grids
  unfold calibrateWatched
  refine begins.bind fun started => enters ?_
  refine (proceeds.issue .initial 0 _).bind fun _ => proceeds.advance rfl 0 ?_
  refine (proceeds.adjustGain .rxGainAdjust 0 (by omega)).bind fun rxPgaGain =>
    proceeds.advance rfl 1 ?_
  refine (proceeds.takes .rxIqSearch 1 (by omega)).bind fun rxInitial => ?_
  refine (proceeds.searchReceive .rxIqSearch 2 (by omega)).bind fun rxIq => ?_
  refine (proceeds.issue .rxIqSearch _ _).bind fun _ => ?_
  refine (proceeds.takes .rxIqSearch _ (by omega)).bind fun rxFinal =>
    proceeds.advance rfl _ ?_
  refine (proceeds.issue .txIqDcSearch _ _).bind fun _ => ?_
  refine (proceeds.takes .txIqDcSearch _ (by omega)).bind fun txInitial => ?_
  refine (proceeds.searchTransmit .txIqDcSearch _ (by omega)).bind fun tx => ?_
  refine (proceeds.issue .txIqDcSearch _ _).bind fun _ => ?_
  refine (proceeds.issue .txIqDcSearch _ _).bind fun _ => ?_
  refine (proceeds.takes .txIqDcSearch _ (by omega)).bind fun txFinal =>
    proceeds.advance rfl _ ?_
  refine (proceeds.countCandidates .done _).bind fun candidates => ?_
  refine (proceeds.clock .done _).bind fun finished => ?_
  refine ensures_pure _ fun progress reached => ?_
  have total : 2 + (config.grids.map Grid.size).sum + 1 + 1 + (config.grids.map Grid.size).sum + 1 =
      5 + config.candidates := by omega
  exact total ▸ reached

end Proceeds

end Calibration

end LoopbackCalibration
