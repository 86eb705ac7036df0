import Mathlib.Tactic.SplitIfs
import LoopbackCalibration.Proofs.Action.Shadow
import LoopbackCalibration.Proofs.Calibration.Stages

/-! # Calibrations on shadowing rigs

A rig shadows another when each of its calls does. Then a whole calibration on the
one shadows the calibration on the other (`Calibration.shadows_calibrate`): whatever
the larger rig keeps for itself, the run comes to the same result and leaves the
smaller device in the same state.
-/

namespace LoopbackCalibration

open Action

variable {σ τ η α : Type}

/-- Every call of `shadow` shadows the call of `rig`. -/
structure Rig.Shadows (view : τ → σ) (shadow : Rig τ η α) (rig : Rig σ η α) : Prop where
  command : ∀ command, Action.Shadows view (shadow.command command) (rig.command command)
  openStream : ∀ channels,
    Action.Shadows view (shadow.openStream channels) (rig.openStream channels)
  activate : ∀ stream count,
    Action.Shadows view (shadow.activate stream count) (rig.activate stream count)
  read : ∀ stream rooms wait,
    Action.Shadows view (shadow.read stream rooms wait) (rig.read stream rooms wait)
  closeStream : ∀ stream,
    Action.Shadows view (shadow.closeStream stream) (rig.closeStream stream)
  now : ∀ world, rig.now (view world) = ((shadow.now world).1, view (shadow.now world).2)
  stopRequested : ∀ world, rig.stopRequested (view world) = shadow.stopRequested world
  note : ∀ trial world, view (shadow.note trial world) = rig.note trial (view world)

/-- A view of the world beside the same stage. -/
def Progress.map (view : τ → σ) (progress : Progress τ) : Progress σ :=
  ⟨progress.stage, view progress.world⟩

variable {view : τ → σ} {shadow : Rig τ η α} {rig : Rig σ η α}

private theorem shadows_onWorld {ε β : Type} {first : Action τ ε β} {second : Action σ ε β}
    (shadows : Action.Shadows view first second) :
    Action.Shadows (Progress.map view) (Progress.onWorld first) (Progress.onWorld second) := by
  intro progress
  have reached := shadows progress.world
  simp only [Progress.onWorld, Action.onPart, Progress.map, reached]

/-- A stage beside the world makes no difference. -/
theorem Rig.Shadows.progress (shadows : shadow.Shadows view rig) :
    (Progress.rig shadow).Shadows (Progress.map view) (Progress.rig rig) where
  command command := shadows_onWorld (shadows.command command)
  openStream channels := shadows_onWorld (shadows.openStream channels)
  activate stream count := shadows_onWorld (shadows.activate stream count)
  read stream rooms wait := shadows_onWorld (shadows.read stream rooms wait)
  closeStream stream := shadows_onWorld (shadows.closeStream stream)
  now progress := by
    have reached := shadows.now progress.world
    simp only [Progress.rig, Progress.map, reached]
  stopRequested progress := shadows.stopRequested progress.world
  note trial progress := by
    have reached := shadows.note trial progress.world
    simp only [Progress.rig, Progress.map, reached]

namespace Acquisition

variable [Arithmetic α]

/-- A round of the shadow in which something is read is such a round of the capture. -/
private theorem collect_view (shadows : shadow.Shadows view rig) {stream : η}
    {options : AcquisitionOptions} {requested deadline instant : Nat} {raw : RawCapture α}
    {world looked after : τ} {result : Except StatusCode (Delivery α)}
    (missing : ¬requested ≤ raw.size)
    (wanted : ¬(options.cancelled || shadow.stopRequested world) = true)
    (look : shadow.now world = (instant, looked)) (early : ¬deadline ≤ instant) :
    shadow.read stream [requested - raw.size, requested - raw.size]
        ⟨min options.readTimeout.nanoseconds (deadline - instant)⟩ looked = (result, after) →
      collect rig stream options requested deadline raw (view world) =
        match result with
        | .ok delivery => collect rig stream options requested deadline
            (raw.append delivery (min delivery.count (requested - raw.size))) (view after)
        | .error status =>
          if status.isTimeout then
            collect rig stream options requested deadline raw (view after)
          else
            (.error (.readStatus status raw.size), view after) := by
  intro read
  have look' := shadows.now world
  have read' := shadows.read stream [requested - raw.size, requested - raw.size]
    ⟨min options.readTimeout.nanoseconds (deadline - instant)⟩ looked
  rw [look] at look'
  rw [read] at read'
  rw [← shadows.stopRequested] at wanted
  exact collect_of_read missing wanted look' early read'

/-- Reading for a capture. Induction on the rounds of the loop, which are the same on both
rigs. -/
theorem shadows_collect (shadows : shadow.Shadows view rig) (stream : η)
    (options : AcquisitionOptions) (requested deadline : Nat) (raw : RawCapture α) :
    Action.Shadows view (collect shadow stream options requested deadline raw)
      (collect rig stream options requested deadline raw) := by
  intro world
  fun_induction collect shadow stream options requested deadline raw world with
  | case1 raw world complete => exact collect_complete _ _ _ complete _
  | case2 raw world missing stopped =>
      rw [← shadows.stopRequested] at stopped
      rw [collect_eq, if_neg missing, if_pos stopped]
  | case3 raw world missing wanted instant looked look late =>
      rw [← shadows.stopRequested] at wanted
      rw [collect_eq, if_neg missing, if_neg wanted, shadows.now world, look, if_pos late]
  | case4 raw world missing wanted instant looked look early room wait delivery after read ih =>
      exact (collect_view shadows missing wanted look early read).trans ih
  | case5 raw world missing wanted instant looked look early room wait status after read again
      ih =>
      exact ((collect_view shadows missing wanted look early read).trans (if_pos again)).trans ih
  | case6 raw world missing wanted instant looked look early room wait status after read fatal =>
      exact (collect_view shadows missing wanted look early read).trans (if_neg fatal)

theorem shadows_acquire (shadows : shadow.Shadows view rig) (stream : η) (requested : Nat)
    (options : AcquisitionOptions) :
    Action.Shadows view (acquire shadow stream requested options)
      (acquire rig stream requested options) := by
  intro world
  unfold acquire
  rw [shadows.activate stream requested world]
  rcases shadow.activate stream requested world with ⟨_ | _, started⟩
  · rfl
  · simp only [shadows.now started]
    split_ifs
    · rfl
    · rfl
    · rw [shadows_collect shadows]
      rcases collect shadow stream options requested _ _ _ with ⟨_ | _, _⟩ <;> rfl

end Acquisition

theorem shadows_withStream {ε β : Type} (shadows : shadow.Shadows view rig)
    {openFailed closeFailed : DeviceError → ε} {body' : η → Action τ ε β}
    {body : η → Action σ ε β} (each : ∀ stream, Action.Shadows view (body' stream) (body stream)) :
    Action.Shadows view (withStream shadow openFailed closeFailed body')
      (withStream rig openFailed closeFailed body) := by
  intro world
  unfold withStream
  rw [shadows.openStream Channel.all world]
  rcases shadow.openStream Channel.all world with ⟨_ | stream, opened⟩
  · rfl
  · dsimp only
    rw [each stream opened]
    rcases body' stream opened with ⟨_ | value, finished⟩
    · dsimp only
      rw [shadows.closeStream stream finished]
    · dsimp only
      rw [shadows.closeStream stream finished]
      rcases shadow.closeStream stream finished with ⟨_ | _, closed⟩ <;> rfl

namespace Calibration

theorem shadows_issueDuring (shadows : shadow.Shadows view rig) (stage : Stage)
    (commands : List (Command α)) :
    Action.Shadows (Progress.map view) (issueDuring shadow stage commands)
      (issueDuring rig stage commands) :=
  shadows_forEach (fun command => (shadows.progress.command command).mapError _) commands

theorem shadows_issue (shadows : shadow.Shadows view rig) (commands : List (Command α)) :
    Action.Shadows (Progress.map view) (issue shadow commands) (issue rig commands) :=
  fun progress => shadows_issueDuring shadows progress.stage commands progress

theorem shadows_enter (stage : Stage) :
    Action.Shadows (Progress.map view) (enter stage) (enter stage) :=
  shadows_modify fun _ => rfl

theorem shadows_advance : Action.Shadows (Progress.map view) advance advance :=
  shadows_modify fun _ => rfl

theorem shadows_clock (shadows : shadow.Shadows view rig) :
    Action.Shadows (Progress.map view) (clock shadow) (clock rig) := by
  intro progress
  unfold clock
  rw [shadows.progress.now progress]

theorem shadows_note (shadows : shadow.Shadows view rig) (trial : Trial α) :
    Action.Shadows (Progress.map view) (note shadow trial) (note rig trial) :=
  shadows_modify (shadows.progress.note trial)

theorem shadows_countCandidates (config : Config α) :
    Action.Shadows (Progress.map view) (countCandidates config) (countCandidates config) := by
  unfold countCandidates
  split_ifs
  · exact shadows_pure _
  · exact shadows_fail _

variable [Scalar α]

theorem shadows_capture (shadows : shadow.Shadows view rig) (config : Config α) (stream : η) :
    Action.Shadows (Progress.map view) (capture shadow config stream)
      (capture rig config stream) :=
  fun progress => (Acquisition.shadows_acquire shadows.progress stream _ _).mapError _ progress

theorem shadows_adjustGain (shadows : shadow.Shadows view rig) (config : Config α)
    (stream : η) :
    Action.Shadows (Progress.map view) (adjustGain shadow config stream)
      (adjustGain rig config stream) :=
  (shadows_issue shadows _).bind fun _ => (shadows_capture shadows config stream).bind
    fun _ => (shadows_issue shadows _).bind fun _ => shadows_pure _

theorem shadows_searchReceive (shadows : shadow.Shadows view rig) (config : Config α)
    (stream : η) :
    Action.Shadows (Progress.map view) (searchReceive shadow config stream)
      (searchReceive rig config stream) :=
  Descent.shadows_tryGrids (fun _ _ _ => (shadows_issue shadows _).bind fun _ =>
    (shadows_capture shadows config stream).bind fun _ =>
      (shadows_note shadows _).bind fun _ => shadows_pure _) _ _

theorem shadows_searchTransmit (shadows : shadow.Shadows view rig) (config : Config α)
    (stream : η) :
    Action.Shadows (Progress.map view) (searchTransmit shadow config stream)
      (searchTransmit rig config stream) :=
  Descent.shadows_tryGrids (fun _ _ _ => (shadows_issue shadows _).bind fun _ =>
    (shadows_capture shadows config stream).bind fun _ =>
      (shadows_note shadows _).bind fun _ => shadows_pure _) _ _

theorem shadows_reveal {watch : Stage → σ → σ} {watch' : Stage → τ → τ}
    (watches : ∀ stage world, view (watch' stage world) = watch stage (view world)) :
    Action.Shadows (Progress.map view) (reveal watch') (reveal watch) :=
  shadows_modify fun progress => congrArg (Progress.mk progress.stage) (watches _ _)

/-- A calibration in stages shadows another when the rig of each stage shadows the one of the
same stage, and what is made of the stage is seen through the view. -/
theorem shadows_calibrateWatched {watch : Stage → σ → σ} {watch' : Stage → τ → τ}
    (watches : ∀ stage world, view (watch' stage world) = watch stage (view world))
    {shadows : Stage → Rig τ η α} {rigs : Stage → Rig σ η α}
    (each : ∀ stage, (shadows stage).Shadows view (rigs stage)) (config : Config α)
    (frequency : α) (stream : η) :
    Action.Shadows (Progress.map view) (calibrateWatched watch' shadows config frequency stream)
      (calibrateWatched watch rigs config frequency stream) := by
  unfold calibrateWatched
  refine (shadows_clock (each .initial)).bind fun started => ?_
  refine (shadows_enter .initial).bind fun _ => ?_
  refine (shadows_reveal watches).bind fun _ => ?_
  refine (shadows_issue (each .initial) _).bind fun _ => ?_
  refine shadows_advance.bind fun _ => ?_
  refine (shadows_reveal watches).bind fun _ => ?_
  refine (shadows_adjustGain (each .rxGainAdjust) config stream).bind fun rxPgaGain => ?_
  refine shadows_advance.bind fun _ => ?_
  refine (shadows_reveal watches).bind fun _ => ?_
  refine (shadows_capture (each .rxIqSearch) config stream).bind fun rxInitial => ?_
  refine (shadows_searchReceive (each .rxIqSearch) config stream).bind fun rxIq => ?_
  refine (shadows_issue (each .rxIqSearch) _).bind fun _ => ?_
  refine (shadows_capture (each .rxIqSearch) config stream).bind fun rxFinal => ?_
  refine shadows_advance.bind fun _ => ?_
  refine (shadows_reveal watches).bind fun _ => ?_
  refine (shadows_issue (each .txIqDcSearch) _).bind fun _ => ?_
  refine (shadows_capture (each .txIqDcSearch) config stream).bind fun txInitial => ?_
  refine (shadows_searchTransmit (each .txIqDcSearch) config stream).bind fun tx => ?_
  refine (shadows_issue (each .txIqDcSearch) _).bind fun _ => ?_
  refine (shadows_issue (each .txIqDcSearch) _).bind fun _ => ?_
  refine (shadows_capture (each .txIqDcSearch) config stream).bind fun txFinal => ?_
  refine shadows_advance.bind fun _ => ?_
  refine (shadows_reveal watches).bind fun _ => ?_
  refine (shadows_countCandidates config).bind fun candidates => ?_
  exact (shadows_clock (each .done)).bind fun finished => shadows_pure _

theorem shadows_calibrateInStages {shadows : Stage → Rig τ η α} {rigs : Stage → Rig σ η α}
    (each : ∀ stage, (shadows stage).Shadows view (rigs stage)) (config : Config α)
    (frequency : α) (stream : η) :
    Action.Shadows (Progress.map view) (calibrateInStages shadows config frequency stream)
      (calibrateInStages rigs config frequency stream) := by
  have unwatched (_ : Stage) (world : τ) : view (id world) = id (view world) := rfl
  rw [calibrateInStages_eq_watched, calibrateInStages_eq_watched]
  exact shadows_calibrateWatched unwatched each config frequency stream

/-- **Calibrations on shadowing rigs.** A calibration on a rig that shadows another
shadows the calibration on that other rig. -/
theorem shadows_calibrate (shadows : shadow.Shadows view rig) (config : Config α)
    (frequency : α) (stream : η) :
    Action.Shadows (Progress.map view) (calibrate shadow config frequency stream)
      (calibrate rig config frequency stream) :=
  shadows_calibrateInStages (fun _ => shadows) config frequency stream

/-- A run in stages shadows another when the rig of each stage shadows the one of the same
stage, and what is made of the stage is seen through the view. -/
theorem shadows_runWatched {watch : Stage → σ → σ} {watch' : Stage → τ → τ}
    (watches : ∀ stage world, view (watch' stage world) = watch stage (view world))
    {shadows : Stage → Rig τ η α} {rigs : Stage → Rig σ η α}
    (each : ∀ stage, (shadows stage).Shadows view (rigs stage)) (config : Config α)
    (frequency : α) :
    Action.Shadows (Progress.map view) (runWatched watch' shadows config frequency)
      (runWatched watch rigs config frequency) := by
  have streams : (streamRig shadows).Shadows view (streamRig rigs) :=
    { each .initial with closeStream := (each .done).closeStream }
  exact (shadows_issueDuring (each .initial) .initial _).bind fun _ =>
    shadows_withStream streams.progress
      (shadows_calibrateWatched watches each config frequency)

theorem shadows_runInStages {shadows : Stage → Rig τ η α} {rigs : Stage → Rig σ η α}
    (each : ∀ stage, (shadows stage).Shadows view (rigs stage)) (config : Config α)
    (frequency : α) :
    Action.Shadows (Progress.map view) (runInStages shadows config frequency)
      (runInStages rigs config frequency) := by
  have unwatched (_ : Stage) (world : τ) : view (id world) = id (view world) := rfl
  rw [runInStages_eq_watched, runInStages_eq_watched]
  exact shadows_runWatched unwatched each config frequency

end Calibration

end LoopbackCalibration
