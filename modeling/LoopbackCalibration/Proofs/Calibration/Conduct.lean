import LoopbackCalibration.Proofs.Calibration.Passage

/-! # What a calibration does with failing calls

A calibration stops at the first of its calls that fails, and its error is the one that
the call gave, with the stage that the call belongs to (`Calibration.Conduct.calibrate`).
-/

namespace LoopbackCalibration

open Action

variable {σ η α β ε ε' : Type}

/-- The calibration has given up although no call failed. -/
def CalibrationError.GivesUp : CalibrationError → Prop
  | .acquisition _ source => source.GivesUp
  | _ => False

theorem Halt.Leaves.map {sound : σ → Prop} {broken : ε' → σ → Prop} {givesUp : ε → Prop}
    {givesUp' : ε' → Prop} {restate : ε → ε'} {halt : Halt ε} {world : σ}
    (leaves : halt.Leaves sound (fun cause => broken (restate cause)) givesUp world)
    (same : ∀ cause, givesUp cause → givesUp' (restate cause)) :
    (halt.map restate).Leaves sound broken givesUp' world := by
  cases halt with
  | error cause => exact leaves.imp_right fun ⟨gaveUp, unbroken⟩ => ⟨same cause gaveUp, unbroken⟩
  | overflow => exact leaves

/-- The stream is opened before the computation and closed after it. -/
theorem ensures_withStream {rig : Rig σ η α} {openFailed closeFailed : DeviceError → ε}
    {body : η → Action σ ε β} {before : σ → Prop} {opened : η → σ → Prop}
    {finished : η → β → σ → Prop} {stopped : η → ε → σ → Prop} {success : β → σ → Prop}
    {failure : ε → σ → Prop}
    (opens : Ensures before (rig.openStream Channel.all) opened
      fun cause => failure (openFailed cause))
    (uses : ∀ stream, Ensures (opened stream) (body stream) (finished stream) (stopped stream))
    (closes : ∀ stream value, Ensures (finished stream value) (rig.closeStream stream)
      (fun _ => success value) fun cause => failure (closeFailed cause))
    (abandons : ∀ stream cause, Ensures (stopped stream cause) (rig.closeStream stream)
      (fun _ => failure cause) fun _ => failure cause) :
    Ensures before (withStream rig openFailed closeFailed body) success failure := by
  intro world start
  have reached := opens world start
  unfold withStream
  rcases outcome : rig.openStream Channel.all world with ⟨_ | stream, opened⟩ <;>
    rw [outcome] at reached
  · exact reached
  · have used := uses stream opened reached
    dsimp only
    rcases outcome : body stream opened with ⟨cause | value, after⟩ <;> rw [outcome] at used
    · have closed := abandons stream cause after used
      rcases outcome : rig.closeStream stream after with ⟨_ | _, last⟩ <;>
        rw [outcome] at closed <;> simpa only [outcome] using closed
    · have closed := closes stream value after used
      rcases outcome : rig.closeStream stream after with ⟨_ | _, last⟩ <;>
        rw [outcome] at closed <;> simpa only [outcome] using closed

namespace Calibration

/-- A run is put together from its setup, the opening of its stream, its calibration and the close.
Only the calibration may depend on the stage. -/
theorem ensures_runWatched [Scalar α] {watch : Stage → σ → σ} {rigs : Stage → Rig σ η α}
    {config : Config α} {frequency : α} {current : Stage} {before : σ → Prop}
    {opened : η → σ → Prop} {finished : η → Outcome α → σ → Prop}
    {stopped : η → Halt CalibrationError → σ → Prop} {success : Outcome α → σ → Prop}
    {failure : Halt CalibrationError → σ → Prop}
    (sets : ∀ command, Ensures before ((rigs .initial).command command) (fun _ => before)
      fun cause => failure (.error (.configuration .initial cause)))
    (opens : Ensures before ((rigs .initial).openStream Channel.all) opened
      fun cause => failure (.error (.configuration .initial cause)))
    (uses : ∀ stream, Ensures (At current (opened stream))
      (calibrateWatched watch rigs config frequency stream)
      (fun outcome progress => finished stream outcome progress.world)
      fun halt progress => stopped stream halt progress.world)
    (closes : ∀ stream outcome, Ensures (finished stream outcome)
      ((rigs .done).closeStream stream) (fun _ => success outcome)
      fun cause => failure (.error (.configuration .done cause)))
    (abandons : ∀ stream halt, Ensures (stopped stream halt) ((rigs .done).closeStream stream)
      (fun _ => failure halt) fun _ => failure halt) :
    Ensures (At current before) (runWatched watch rigs config frequency)
      (fun outcome progress => success outcome progress.world)
      fun halt progress => failure halt progress.world := by
  have setsAll : Ensures (At current before)
      (issueDuring (rigs .initial) .initial config.setup) (fun _ => At current before)
      fun halt after => ∃ error, halt = .error error ∧ At current (failure (.error error)) after :=
    ensures_issueDuring sets config.setup current
  refine Ensures.bind (setsAll.weaken (fun _ => id) (fun _ _ => id) ?_) fun _ => ?_
  · rintro _ after ⟨error, rfl, -, failed⟩
    exact failed
  · exact ensures_withStream ((ensures_onWorld_at opens current).weaken (fun _ => id)
      (fun _ _ => id) fun _ _ => And.right) uses
      (fun stream outcome => Progress.ensures_onWorld (closes stream outcome))
      fun stream halt => Progress.ensures_onWorld (abandons stream halt)

/-- As long as no call fails the world is sound, and a call of a stage that fails leaves it
broken by the error that the calibration makes of it in that stage. -/
structure Conduct (rigs : Stage → Rig σ η α) (stream : η) (sound : σ → Prop)
    (broken : CalibrationError → σ → Prop) : Prop where
  command : ∀ stage command, Ensures sound ((rigs stage).command command) (fun _ => sound)
    fun cause => broken (.configuration stage cause)
  serves : ∀ stage,
    (rigs stage).Serves stream sound fun error => broken (.acquisition stage error)
  note : ∀ stage trial world, sound world → sound ((rigs stage).note trial world)

/-- A calibration stops: a call has failed with its error, or the world is sound. -/
def Stops (sound : σ → Prop) (broken : CalibrationError → σ → Prop)
    (halt : Halt CalibrationError) (progress : Progress σ) : Prop :=
  halt.Leaves sound broken CalibrationError.GivesUp progress.world

/-- What a step does from one stage to another. -/
abbrev Conducts (sound : σ → Prop) (broken : CalibrationError → σ → Prop) (stage next : Stage)
    (step : Step σ β) : Prop :=
  Ensures (At stage sound) step (fun _ => At next sound) (Stops sound broken)

variable {rigs : Stage → Rig σ η α} {stream : η} {sound : σ → Prop}
  {broken : CalibrationError → σ → Prop} {config : Config α}

namespace Conduct

/-- What holds from call to call of a calibration does not depend on the stage or on the captures
taken. -/
private theorem proceeds [Arithmetic α] (conduct : Conduct rigs stream sound broken) :
    Proceeds (fun _ => id) rigs config stream sound (fun _ _ => sound)
      fun _ halt => halt.Leaves sound broken CalibrationError.GivesUp where
  started := (conduct.serves .initial).now
  enters _ := id
  advances _ _ _ _ _ := id
  command stage _ command := (conduct.command stage command).weaken (fun _ => id)
    (fun _ _ => id) fun _ _ => .inl
  capture stage _ _ := ensures_capture ((conduct.serves stage).bursts _ _)
    fun _ _ leaves => leaves.map fun _ => id
  now stage _ := (conduct.serves stage).now
  note stage _ := conduct.note stage
  overflow _ _ _ := id

/-- **First failure of a calibration.** Either no call fails, or the calibration stops at the
first call that does and reports the error of that call with the stage of the call. -/
theorem calibrate [Scalar α] (conduct : Conduct rigs stream sound broken) (frequency : α)
    (current : Stage) :
    Conducts sound broken current .done (calibrateInStages rigs config frequency stream) := by
  rw [calibrateInStages_eq_watched]
  exact conduct.proceeds.calibrate frequency current

end Conduct

end Calibration

end LoopbackCalibration
