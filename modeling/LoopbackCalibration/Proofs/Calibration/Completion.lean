import LoopbackCalibration.Proofs.Calibration.Stages

/-! # Calibrations that complete

A rig is *reliable* while its world is ready: no call fails, every read brings all that
there is room for, up to a limit, no stop is requested, and the clock stands at its
start. On a reliable rig a calibration completes, as long as its counts fit a machine
word (`Calibration.completes_calibrate`).
-/

namespace LoopbackCalibration

open Action

variable {σ η α : Type}

/-- As long as the world is ready, no call fails and the world stays ready. A read whose
room is within the limit brings all that there is room for. -/
structure Rig.Reliable (rig : Rig σ η α) (ready : σ → Prop) (limit : Nat) : Prop where
  command : ∀ command, Ensures ready (rig.command command) (fun _ => ready) fun _ _ => False
  activate : ∀ stream count,
    Ensures ready (rig.activate stream count) (fun _ => ready) fun _ _ => False
  read : ∀ stream room wait, 0 < room → room ≤ limit →
    Ensures ready (rig.read stream [room, room] wait)
      (fun delivery world => room ≤ delivery.count ∧ ready world)
      fun _ _ => False
  now : ∀ world, ready world → (rig.now world).1 = 0 ∧ ready (rig.now world).2
  stopRequested : ∀ world, ready world → rig.stopRequested world = false
  note : ∀ trial world, ready world → ready (rig.note trial world)

/-- The counts of a calibration fit machine words, and its captures have time. -/
structure Config.Fits (config : Config α) (limit : Nat) : Prop where
  grids : ∀ grid ∈ config.grids, grid.fits
  candidates : config.candidates < 2 ^ (64 : Nat)
  samples : config.samplesPerCapture ≤ min limit Acquisition.capacity
  timeout : 0 < config.acquisitionTimeout.nanoseconds
  horizon : config.acquisitionTimeout.nanoseconds < Acquisition.horizon

/-- A world that is ready beside any stage. -/
def Progress.Ready (ready : σ → Prop) (progress : Progress σ) : Prop := ready progress.world

variable {rig : Rig σ η α} {ready : σ → Prop} {limit : Nat}

/-- A stage beside the world makes no difference. -/
theorem Rig.Reliable.progress (reliable : rig.Reliable ready limit) :
    (Progress.rig rig).Reliable (Progress.Ready ready) limit where
  command command := Progress.ensures_onWorld (reliable.command command)
  activate stream count := Progress.ensures_onWorld (reliable.activate stream count)
  read stream room wait some within :=
    Progress.ensures_onWorld (reliable.read stream room wait some within)
  now progress holds := reliable.now progress.world holds
  stopRequested progress holds := reliable.stopRequested progress.world holds
  note trial progress holds := reliable.note trial progress.world holds

namespace Acquisition

variable [Arithmetic α]

/-- One read is enough for a burst. -/
private theorem ensures_collect (reliable : rig.Reliable ready limit) (stream : η)
    {requested : Nat} (within : requested ≤ limit) {options : AcquisitionOptions}
    (wanted : options.cancelled = false) {deadline : Nat} (timeout : 0 < deadline) :
    Ensures ready (collect rig stream options requested deadline .empty) (fun _ => ready)
      fun _ _ => False := by
  intro world holds
  by_cases complete : requested ≤ (RawCapture.empty (α := α)).size
  · rw [collect_complete rig stream options complete]
    exact holds
  · obtain ⟨start, looked⟩ := reliable.now world holds
    have unstopped : ¬(options.cancelled || rig.stopRequested world) = true := by
      rw [wanted, reliable.stopRequested world holds]
      decide
    have reached := reliable.read stream (requested - (RawCapture.empty (α := α)).size)
      ⟨min options.readTimeout.nanoseconds (deadline - 0)⟩ (by omega) (by omega) _ looked
    rcases read : rig.read stream _ _ (rig.now world).2 with ⟨_ | delivery, after⟩ <;>
      rw [read] at reached
    · exact reached.elim
    · obtain ⟨enough, readied⟩ := reached
      rw [collect_of_read complete unstopped (Prod.ext start rfl) (Nat.not_le.mpr timeout) read]
      dsimp only
      rw [collect_complete rig stream options (by rw [RawCapture.size_append]; omega)]
      exact readied

theorem ensures_acquire (reliable : rig.Reliable ready limit) (stream : η) {requested : Nat}
    (samples : requested ≤ min limit capacity) {options : AcquisitionOptions}
    (wanted : options.cancelled = false) (timeout : 0 < options.timeout.nanoseconds)
    (early : options.timeout.nanoseconds < horizon) :
    Ensures ready (acquire rig stream requested options) (fun _ => ready) fun _ _ => False := by
  intro world holds
  have reached := reliable.activate stream requested world holds
  unfold acquire
  rcases outcome : rig.activate stream requested world with ⟨_ | _, started⟩ <;>
    rw [outcome] at reached
  · exact reached.elim
  · obtain ⟨start, looked⟩ := reliable.now started reached
    simp only [start]
    rw [if_neg (by omega), if_neg (by omega), Nat.zero_add]
    have collected := ensures_collect reliable stream (Nat.le_trans samples (Nat.min_le_left _ _))
      wanted timeout (rig.now started).2 looked
    rcases outcome' : collect rig stream options requested _ _ _ with ⟨_ | raw, after⟩ <;>
      rw [outcome'] at collected <;> exact collected

end Acquisition

namespace Calibration

variable {config : Config α} {stream : η}

/-- What a step does on a reliable rig: it gives a value and leaves the world ready. -/
def Completes (ready : σ → Prop) {β : Type} (step : Step σ β) : Prop :=
  Ensures (Progress.Ready ready) step (fun _ => Progress.Ready ready) fun _ _ => False

theorem Completes.bind {β γ : Type} {first : Step σ β} {next : β → Step σ γ}
    (begins : Completes ready first) (continues : ∀ value, Completes ready (next value)) :
    Completes ready (Action.bind first next) :=
  Ensures.bind begins continues

theorem completes_pure {β : Type} (value : β) :
    Completes ready (Action.pure value : Step σ β) :=
  ensures_pure value fun _ => id

theorem completes_issue (reliable : rig.Reliable ready limit) (commands : List (Command α)) :
    Completes ready (issue rig commands) :=
  fun progress => ensures_forEach (fun command _ =>
    (reliable.progress.command command).mapError) progress

/-- Commands given while the world is ready are carried out and leave it ready. -/
theorem exists_ready (reliable : rig.Reliable ready limit) (commands : List (Command α))
    (progress : Progress σ) (start : ready progress.world) :
    ∃ after, issue rig commands progress = (.ok (), after) ∧ ready after.world := by
  have reached := completes_issue reliable commands progress start
  rcases result : issue rig commands progress with ⟨_ | _, after⟩ <;> rw [result] at reached
  · exact reached.elim
  · exact ⟨after, rfl, reached⟩

theorem completes_clock (reliable : rig.Reliable ready limit) :
    Completes ready (clock rig) :=
  fun progress holds => (reliable.progress.now progress holds).2

theorem completes_enter (stage : Stage) : Completes ready (enter stage) :=
  fun _ => id

theorem completes_advance : Completes ready (advance (σ := σ)) :=
  fun _ => id

theorem completes_note (reliable : rig.Reliable ready limit) (trial : Trial α) :
    Completes ready (note rig trial) :=
  fun progress holds => reliable.progress.note trial progress holds

theorem completes_countCandidates (fits : config.Fits limit) :
    Completes ready (countCandidates config : Step σ Nat) := by
  unfold countCandidates
  rw [if_pos fits.candidates]
  exact completes_pure _

theorem completes_capture [Arithmetic α] (reliable : rig.Reliable ready limit)
    (fits : config.Fits limit) : Completes ready (capture rig config stream) :=
  fun progress => (Acquisition.ensures_acquire reliable.progress stream fits.samples rfl
    fits.timeout fits.horizon).mapError progress

variable [Scalar α]

theorem completes_adjustGain (reliable : rig.Reliable ready limit)
    (fits : config.Fits limit) : Completes ready (adjustGain rig config stream) :=
  (completes_issue reliable _).bind fun _ => (completes_capture reliable fits).bind fun _ =>
    (completes_issue reliable _).bind fun _ => completes_pure _

private theorem completes_tryGrids {β : Type} {attempt : β → TestPoint α → β → Step σ β}
    (fits : config.Fits limit)
    (each : ∀ start point found, Completes ready (attempt start point found)) (found : β) :
    Completes ready (Descent.tryGrids attempt config.grids found) :=
  Descent.ensures_tryGrids each
    (fun grid member excess => (excess (fits.grids grid member)).elim) found

theorem completes_searchReceive (reliable : rig.Reliable ready limit)
    (fits : config.Fits limit) : Completes ready (searchReceive rig config stream) :=
  completes_tryGrids fits (fun _ _ _ => (completes_issue reliable _).bind fun _ =>
    (completes_capture reliable fits).bind fun _ =>
      (completes_note reliable _).bind fun _ => completes_pure _) _

theorem completes_searchTransmit (reliable : rig.Reliable ready limit)
    (fits : config.Fits limit) : Completes ready (searchTransmit rig config stream) :=
  completes_tryGrids fits (fun _ _ _ => (completes_issue reliable _).bind fun _ =>
    (completes_capture reliable fits).bind fun _ =>
      (completes_note reliable _).bind fun _ => completes_pure _) _

/-- **Completion.** On a reliable rig a calibration completes. -/
theorem completes_calibrate (reliable : rig.Reliable ready limit) (fits : config.Fits limit)
    (frequency : α) (stream : η) :
    Completes ready (calibrate rig config frequency stream) := by
  unfold calibrate
  refine (completes_clock reliable).bind fun started => ?_
  refine (completes_enter .initial).bind fun _ => ?_
  refine (completes_issue reliable _).bind fun _ => ?_
  refine completes_advance.bind fun _ => ?_
  refine (completes_adjustGain reliable fits).bind fun rxPgaGain => ?_
  refine completes_advance.bind fun _ => ?_
  refine (completes_capture reliable fits).bind fun rxInitial => ?_
  refine (completes_searchReceive reliable fits).bind fun rxIq => ?_
  refine (completes_issue reliable _).bind fun _ => ?_
  refine (completes_capture reliable fits).bind fun rxFinal => ?_
  refine completes_advance.bind fun _ => ?_
  refine (completes_issue reliable _).bind fun _ => ?_
  refine (completes_capture reliable fits).bind fun txInitial => ?_
  refine (completes_searchTransmit reliable fits).bind fun tx => ?_
  refine (completes_issue reliable _).bind fun _ => ?_
  refine (completes_issue reliable _).bind fun _ => ?_
  refine (completes_capture reliable fits).bind fun txFinal => ?_
  refine completes_advance.bind fun _ => ?_
  refine (completes_countCandidates fits).bind fun candidates => ?_
  exact (completes_clock reliable).bind fun finished => completes_pure _

/-- A calibration started ready gives an outcome and leaves the world ready. -/
theorem exists_outcome (reliable : rig.Reliable ready limit) (fits : config.Fits limit)
    (frequency : α) (stream : η) {progress : Progress σ} (start : ready progress.world) :
    ∃ outcome after, calibrate rig config frequency stream progress = (.ok outcome, after) ∧
      ready after.world := by
  have reached := completes_calibrate reliable fits frequency stream progress start
  rcases result : calibrate rig config frequency stream progress with ⟨_ | outcome, after⟩ <;>
    rw [result] at reached
  · exact reached.elim
  · exact ⟨outcome, after, rfl, reached⟩

end Calibration

end LoopbackCalibration
