import LoopbackCalibration.Proofs.Calibration.Conduct
import LoopbackCalibration.Proofs.Calibration.Shadow
import LoopbackCalibration.Proofs.Simulator.Residue

/-! # The stage of a controller

A controller keeps its stage from one run to the next. A run that has set up the device and
opened a stream begins with the first stage, passes from each stage to the one after it, and
leaves behind the stage that it ended in. A run that was stopped before leaves the stage that it
found, although its error tells the first one (`Calibration.stage_after_runs`).
-/

namespace LoopbackCalibration

open Action

variable {σ η α ε β : Type}

/-- The stages up to this one. -/
def Stage.upTo (stage : Stage) : List Stage := all.take (stage.rank + 1)

theorem Stage.upTo_of_next? {stage next : Stage} (follows : stage.next? = some next) :
    next.upTo = stage.upTo ++ [next] := by
  cases stage <;> cases follows <;> rfl

/-- A device's world with the stages that a run on it has been in so far, first to last. -/
structure Trail (σ : Type) where
  world : σ
  stages : List Stage

namespace Trail

/-- No stage written yet. -/
def start (world : σ) : Trail σ := ⟨world, []⟩

/-- Put a stage at the end of the trail. -/
def mark (stage : Stage) (trail : Trail σ) : Trail σ :=
  { trail with stages := trail.stages ++ [stage] }

/-- An action on the world, which leaves the trail alone. -/
def onWorld (action : Action σ ε β) : Action (Trail σ) ε β :=
  Action.onPart Trail.world (fun world trail => { trail with world }) action

/-- The rig of a world beside a trail. -/
def rig (rig : Rig σ η α) : Rig (Trail σ) η α where
  description trail := rig.description trail.world
  command command := onWorld (rig.command command)
  openStream channels := onWorld (rig.openStream channels)
  activate stream count := onWorld (rig.activate stream count)
  read stream rooms wait := onWorld (rig.read stream rooms wait)
  closeStream stream := onWorld (rig.closeStream stream)
  now trail :=
    match rig.now trail.world with
    | (reading, world) => (reading, { trail with world })
  stopRequested trail := rig.stopRequested trail.world
  note trial trail := { trail with world := rig.note trial trail.world }
  patience stream room instant trail := rig.patience stream room instant trail.world
  patience_lt stream room instant wait trail :=
    rig.patience_lt stream room instant wait trail.world

theorem shadows_rig (rig : Rig σ η α) : (Trail.rig rig).Shadows Trail.world rig where
  command _ _ := rfl
  openStream _ _ := rfl
  activate _ _ _ := rfl
  read _ _ _ _ := rfl
  closeStream _ _ := rfl
  now _ := rfl
  stopRequested _ := rfl
  note _ _ := rfl

/-- The trail is made up of the given stages. -/
def Through (stages : List Stage) (trail : Trail σ) : Prop := trail.stages = stages

variable {stages : List Stage}

theorem ensures_onWorld (action : Action σ ε β) :
    Ensures (Through stages) (onWorld action) (fun _ => Through stages)
      fun _ => Through stages := by
  intro trail through
  unfold onWorld Action.onPart
  rcases action trail.world with ⟨_ | _, _⟩ <;> exact through

private theorem serves (rig : Rig σ η α) (stream : η) :
    (Trail.rig rig).Serves stream (Through stages) fun _ => Through stages where
  activate _ := ensures_onWorld _
  read _ _ := by
    refine (ensures_onWorld _).weaken (fun _ => id) (fun _ _ => id) fun status after through => ?_
    split_ifs
    · exact through
    · exact fun _ => through
  now _ := id

end Trail

namespace Calibration

/-- The stage that a run ended in: the last one after success, and otherwise the one that its
error tells. -/
def ended : Except (Halt CalibrationError) (Outcome α) → Option Stage
  | .ok _ => some .done
  | .error (.error error) => error.stage?
  | .error .overflow => none

/-- An error tells the stage. -/
def Tells (stage : Stage) : Halt CalibrationError → Prop
  | .error error => error.stage? = some stage
  | .overflow => True

/-- The run sets up the device and opens a stream. -/
def Begins [Arithmetic α] (rig : Rig σ η α) (config : Config α) (progress : Progress σ) : Prop :=
  ∃ ready stream opened, issueDuring rig .initial config.setup progress = (.ok (), ready) ∧
    (Progress.rig rig).openStream Channel.all ready = (.ok stream, opened)

variable [Scalar α]

/-- A run that leaves a trail of its stages. -/
def trailed (rig : Rig σ η α) (config : Config α) (frequency : α) (progress : Progress σ) :
    Except (Halt CalibrationError) (Outcome α) × Progress (Trail σ) :=
  runWatched Trail.mark (fun _ => Trail.rig rig) config frequency
    ⟨progress.stage, .start progress.world⟩

/-- The stages that a run writes, first to last. -/
def trail (rig : Rig σ η α) (config : Config α) (frequency : α) (progress : Progress σ) :
    List Stage :=
  (trailed rig config frequency progress).2.world.stages

/-- **A trail changes nothing.** The run beside a trail comes to the result of the run itself and
leaves the same stage and the same device. -/
theorem run_eq_trailed (rig : Rig σ η α) (config : Config α) (frequency : α)
    (progress : Progress σ) :
    run rig config frequency progress =
      ((trailed rig config frequency progress).1,
        (trailed rig config frequency progress).2.map Trail.world) := by
  rw [run_eq_inStages, runInStages_eq_watched]
  have unwatched (stage : Stage) (trail : Trail σ) :
      (trail.mark stage).world = id trail.world := rfl
  exact shadows_runWatched unwatched (fun _ => Trail.shadows_rig rig) config frequency
    ⟨progress.stage, .start progress.world⟩

/-- A calibration passes from each stage to the one after it, and its error tells the stage that
it is in. -/
private theorem proceeds_trail (rig : Rig σ η α) (config : Config α) (stream : η) :
    Proceeds Trail.mark (fun _ => Trail.rig rig) config stream (Trail.Through [])
      (fun stage _ => Trail.Through stage.upTo)
      fun stage halt trail => Tells stage halt ∧ trail.Through stage.upTo where
  started _ := id
  enters trail through := congrArg (· ++ [Stage.initial]) through
  advances stage next _ trail follows through := by
    rw [Stage.upTo_of_next? follows]
    exact congrArg (· ++ [next]) through
  command _ _ _ := (Trail.ensures_onWorld _).weaken (fun _ => id) (fun _ _ => id)
    fun _ _ through => ⟨rfl, through⟩
  capture _ _ _ := by
    refine ensures_capture ((Trail.serves rig stream).bursts _ _) ?_
    rintro (cause | _) trail leaves
    · exact ⟨rfl, leaves.elim id And.right⟩
    · exact ⟨trivial, leaves⟩
  now _ _ _ := id
  note _ _ _ _ := id
  overflow _ _ _ through := ⟨trivial, through⟩

/-- The device is set up and a stream opened whether there is a trail or not. -/
private theorem begins_trail_iff {rig : Rig σ η α} {config : Config α}
    {progress : Progress (Trail σ)} :
    Begins (Trail.rig rig) config progress ↔ Begins rig config (progress.map Trail.world) := by
  have sets := shadows_issueDuring (Trail.shadows_rig rig) .initial config.setup progress
  unfold Begins
  rw [sets]
  rcases issueDuring (Trail.rig rig) .initial config.setup progress with ⟨_ | _, ready⟩
  · constructor <;> rintro ⟨_, _, _, ⟨⟩, -⟩
  · have opens := (Trail.shadows_rig rig).progress.openStream Channel.all ready
    constructor
    · rintro ⟨_, stream, opened, ⟨⟩, opening⟩
      rw [opening] at opens
      exact ⟨_, stream, _, rfl, opens⟩
    · rintro ⟨_, stream, opened, ⟨⟩, opening⟩
      have result := congrArg Prod.fst (opens.symm.trans opening)
      exact ⟨ready, stream, _, rfl, Prod.ext result rfl⟩

/-- Where a run that found a stage stops: past the opening of a stream in the stage that its
trail leads up to, and otherwise where it was. -/
def Stopped (began : Prop) (found : Stage) (halt : Halt CalibrationError)
    (progress : Progress (Trail σ)) : Prop :=
  (began ∧ Tells progress.stage halt ∧ progress.world.Through progress.stage.upTo) ∨
    (¬began ∧ Tells .initial halt ∧ halt ≠ .overflow ∧ At found (Trail.Through []) progress)

section Opened

variable {rig : Rig σ η α} {config : Config α} {start ready : Progress (Trail σ)}

private theorem ensures_setup : Ensures (At start.stage (Trail.Through []))
    (issueDuring (Trail.rig rig) .initial config.setup)
    (fun _ => At start.stage (Trail.Through []))
    fun halt after => ∃ error, halt = .error error ∧
      At start.stage (fun trail => error.stage? = some .initial ∧ trail.Through []) after :=
  ensures_issueDuring (fun command => (Trail.ensures_onWorld (rig.command command)).weaken
    (fun _ => id) (fun _ _ => id) fun _ _ through => ⟨rfl, through⟩) config.setup start.stage

omit [Scalar α] in
private theorem ensures_opening : Ensures (At start.stage (Trail.Through []))
    ((Progress.rig (Trail.rig rig)).openStream Channel.all)
    (fun _ => At start.stage (Trail.Through [])) fun _ => At start.stage (Trail.Through []) :=
  ensures_onWorld_at (Trail.ensures_onWorld (rig.openStream Channel.all)) start.stage

omit [Scalar α] in
private theorem ensures_closing (stream : η) (stage : Stage) (stages : List Stage) :
    Ensures (At stage (Trail.Through stages))
      ((Progress.rig (Trail.rig rig)).closeStream stream)
      (fun _ => At stage (Trail.Through stages)) fun _ => At stage (Trail.Through stages) :=
  ensures_onWorld_at (Trail.ensures_onWorld (rig.closeStream stream)) stage

private theorem ensures_calibrate_opened
    (succeeds : issueDuring (Trail.rig rig) .initial config.setup start = (.ok (), ready))
    (frequency : α) (stream : η) :
    Ensures
      (fun progress =>
        (Progress.rig (Trail.rig rig)).openStream Channel.all ready = (.ok stream, progress) ∧
          At start.stage (Trail.Through []) progress)
      (calibrateWatched Trail.mark (fun _ => Trail.rig rig) config frequency stream)
      (fun _ progress => Begins (Trail.rig rig) config start ∧
        At .done (Trail.Through Stage.all) progress)
      fun halt progress => Begins (Trail.rig rig) config start ∧ Tells progress.stage halt ∧
        progress.world.Through progress.stage.upTo := by
  rintro progress ⟨opening, reached⟩
  have begins : Begins (Trail.rig rig) config start := ⟨ready, stream, progress, succeeds, opening⟩
  exact ((proceeds_trail rig config stream).calibrate frequency start.stage).weaken
    (fun _ => id) (fun _ _ passed => ⟨begins, passed⟩) (fun _ _ stopped => ⟨begins, stopped⟩)
    progress reached

end Opened

private theorem ensures_trailed (rig : Rig σ η α) (config : Config α) (frequency : α)
    (start : Progress (Trail σ)) :
    Ensures (fun progress => progress = start ∧ At start.stage (Trail.Through []) progress)
      (runWatched Trail.mark (fun _ => Trail.rig rig) config frequency)
      (fun _ progress => Begins (Trail.rig rig) config start ∧
        At .done (Trail.Through Stage.all) progress)
      (Stopped (Begins (Trail.rig rig) config start) start.stage) := by
  refine Ensures.bind ((ensures_setup.remember start).weaken (fun _ => id) (fun _ _ => id) ?_)
    fun _ => ?_
  · rintro _ after ⟨fails, error, rfl, stage_eq, tells, through⟩
    refine .inr ⟨?_, tells, nofun, stage_eq, through⟩
    rintro ⟨_, _, _, succeeds, -⟩
    cases fails.symm.trans succeeds
  · rintro ready ⟨succeeds, untouched⟩
    refine ensures_withStream ((ensures_opening.remember ready).weaken (fun _ => id)
      (fun _ _ => id) ?_) (ensures_calibrate_opened succeeds frequency)
      (fun stream outcome => ?_) (fun stream halt => ?_) ready ⟨rfl, untouched⟩
    · rintro cause after ⟨fails, stage_eq, through⟩
      refine .inr ⟨?_, rfl, nofun, stage_eq, through⟩
      rintro ⟨_, _, _, succeeds', opening⟩
      cases succeeds.symm.trans succeeds'
      cases fails.symm.trans opening
    · refine Ensures.of_and fun begins => (ensures_closing stream .done Stage.all).weaken
        (fun _ => id) (fun _ _ passed => ⟨begins, passed⟩) ?_
      rintro cause ⟨_, _⟩ ⟨rfl, through⟩
      exact .inl ⟨begins, rfl, through⟩
    · rintro ⟨stage, trail⟩ ⟨begins, tells, through⟩
      refine (ensures_closing stream stage stage.upTo).weaken (fun _ => id) ?_ ?_ ⟨stage, trail⟩
        ⟨rfl, through⟩
      all_goals
        rintro _ ⟨_, _⟩ ⟨rfl, through⟩
        exact .inl ⟨begins, tells, through⟩

/-- One run of a controller: where it found the stage and the device, what it came to, and how it
left them. -/
structure Attempt (σ α : Type) where
  frequency : α
  before : Progress σ
  result : Except (Halt CalibrationError) (Outcome α)
  after : Progress σ

/-- The runs of a controller, first to last, and the stage that it is left in. Between two runs
anything may be done to the device, but nothing to the stage. A run that overflows does not
return. -/
inductive History (rig : Rig σ η α) (config : Config α) : List (Attempt σ α) → Stage → Prop
  | new : History rig config [] .initial
  | run {past : List (Attempt σ α)} {stage : Stage} (history : History rig config past stage)
      (frequency : α) (world : σ) {result : Except (Halt CalibrationError) (Outcome α)}
      {after : Progress σ} (runs : run rig config frequency ⟨stage, world⟩ = (result, after))
      (returns : result ≠ .error .overflow) :
      History rig config (past ++ [⟨frequency, ⟨stage, world⟩, result, after⟩]) after.stage

/-- What the stage tells of one run. -/
structure Attempt.Placed (rig : Rig σ η α) (config : Config α) (attempt : Attempt σ α) : Prop where
  /-- The stage tells where the run ended just if the run opened a stream or found the first
  stage. -/
  told_iff : ended attempt.result = some attempt.after.stage ↔
    Begins rig config attempt.before ∨ attempt.before.stage = .initial
  /-- A run that opened a stream passed through the stages in their order. -/
  passed : Begins rig config attempt.before →
    trail rig config attempt.frequency attempt.before = attempt.after.stage.upTo
  stopped : ¬Begins rig config attempt.before →
    trail rig config attempt.frequency attempt.before = [] ∧
      attempt.after.stage = attempt.before.stage ∧ ended attempt.result = some .initial

/-- The last run that opened a stream ended in the stage, or none did and it is the first one. -/
def LeftBy (rig : Rig σ η α) (config : Config α) (attempts : List (Attempt σ α)) (stage : Stage) :
    Prop :=
  (stage = .initial ∧ ∀ attempt ∈ attempts, ¬Begins rig config attempt.before) ∨
    ∃ past last later, attempts = past ++ last :: later ∧ Begins rig config last.before ∧
      ended last.result = some stage ∧ ∀ attempt ∈ later, ¬Begins rig config attempt.before

omit [Scalar α] in
private theorem ended_of_tells {stage : Stage} {halt : Halt CalibrationError}
    (tells : Tells stage halt) (returns : halt ≠ .overflow) :
    ended (.error halt : Except _ (Outcome α)) = some stage := by
  cases halt with
  | error cause => exact tells
  | overflow => exact absurd rfl returns

private theorem run_stage {rig : Rig σ η α} {config : Config α} {frequency : α}
    {before after : Progress σ} {result : Except (Halt CalibrationError) (Outcome α)}
    (runs : run rig config frequency before = (result, after))
    (returns : result ≠ .error .overflow) :
    (Begins rig config before ∧ trail rig config frequency before = after.stage.upTo ∧
        ended result = some after.stage) ∨
      (¬Begins rig config before ∧ trail rig config frequency before = [] ∧
        after.stage = before.stage ∧ ended result = some .initial) := by
  have reached := ensures_trailed rig config frequency ⟨before.stage, .start before.world⟩ _
    ⟨rfl, rfl, rfl⟩
  rw [begins_trail_iff] at reached
  rw [run_eq_trailed] at runs
  unfold trail
  unfold trailed at runs ⊢
  generalize runWatched Trail.mark (fun _ => Trail.rig rig) config frequency
    ⟨before.stage, .start before.world⟩ = whole at reached runs ⊢
  rcases whole with ⟨halt | outcome, left⟩ <;> cases runs
  · have told : halt ≠ .overflow := fun overflows => returns (congrArg _ overflows)
    rcases reached with ⟨begins, tells, through⟩ | ⟨fails, tells, -, stage_eq, through⟩
    · exact .inl ⟨begins, through, ended_of_tells tells told⟩
    · exact .inr ⟨fails, through, stage_eq, ended_of_tells tells told⟩
  · obtain ⟨begins, stage_eq, through⟩ := reached
    refine .inl ⟨begins, ?_, congrArg some stage_eq.symm⟩
    rw [show (left.map Trail.world).stage = .done from stage_eq]
    exact through

private theorem placed_of_run {rig : Rig σ η α} {config : Config α} {frequency : α}
    {before after : Progress σ} {result : Except (Halt CalibrationError) (Outcome α)}
    (runs : run rig config frequency before = (result, after))
    (returns : result ≠ .error .overflow) :
    Attempt.Placed rig config ⟨frequency, before, result, after⟩ := by
  rcases run_stage runs returns with ⟨begins, passed, told⟩ | ⟨fails, nothing, kept, told⟩
  · exact ⟨iff_of_true told (.inl begins), fun _ => passed, fun fails => absurd begins fails⟩
  · refine ⟨?_, fun begins => absurd begins fails, fun _ => ⟨nothing, kept, told⟩⟩
    change ended result = some after.stage ↔ _ ∨ before.stage = .initial
    rw [told, kept, or_iff_right fails, Option.some_inj, eq_comm]

private theorem leftBy_run {rig : Rig σ η α} {config : Config α} {past : List (Attempt σ α)}
    {stage : Stage} {world : σ} {frequency : α} {after : Progress σ}
    {result : Except (Halt CalibrationError) (Outcome α)} (left : LeftBy rig config past stage)
    (runs : run rig config frequency ⟨stage, world⟩ = (result, after))
    (returns : result ≠ .error .overflow) :
    LeftBy rig config (past ++ [⟨frequency, ⟨stage, world⟩, result, after⟩]) after.stage := by
  rcases run_stage runs returns with ⟨begins, -, told⟩ | ⟨fails, -, kept, -⟩
  · exact .inr ⟨past, _, [], rfl, begins, told, fun _ member => nomatch member⟩
  · rw [show after.stage = stage from kept]
    have only : ∀ attempt ∈ [(⟨frequency, ⟨stage, world⟩, result, after⟩ : Attempt σ α)],
        ¬Begins rig config attempt.before := List.forall_mem_singleton.mpr fails
    rcases left with ⟨initial, none⟩ | ⟨earlier, last, later, rfl, begins, told, none⟩
    · exact .inl ⟨initial, List.forall_mem_append.mpr ⟨none, only⟩⟩
    · exact .inr ⟨earlier, last, later ++ [_], by simp, begins, told,
        List.forall_mem_append.mpr ⟨none, only⟩⟩

/-- **Where the last run ended.** After each run of a controller the stage tells where the run
ended, just if the run got as far as opening a stream or found the first stage. Such a run passes
through the stages in their order, and a run that stops earlier leaves the stage that it found. So
the stage is always the end of the last run that opened a stream. -/
theorem stage_after_runs {rig : Rig σ η α} {config : Config α} {attempts : List (Attempt σ α)}
    {stage : Stage} (history : History rig config attempts stage) :
    (∀ attempt ∈ attempts, attempt.Placed rig config) ∧ LeftBy rig config attempts stage := by
  induction history with
  | new => exact ⟨List.forall_mem_nil _, .inl ⟨rfl, List.forall_mem_nil _⟩⟩
  | run _ frequency world runs returns ih =>
      exact ⟨List.forall_mem_append.mpr
        ⟨ih.1, List.forall_mem_singleton.mpr (placed_of_run runs returns)⟩,
        leftBy_run ih.2 runs returns⟩

section Runs

/-- The error of the refused clock rate. -/
def refused : DeviceError := .configuration "set_master_clock_rate" "refused"

/-- A device that does all that it is told, except that it refuses the clock rate when it is given
for the second time. -/
def wearing : Rig Nat Unit α where
  description _ := ""
  command
    | .masterClockRate _ => fun given =>
      (if given = 1 then .error refused else .ok (), given + 1)
    | _ => Action.pure ()
  openStream _ := Action.pure ()
  activate _ _ := Action.pure ()
  read _ rooms _ := Action.pure ⟨rooms.headD 0, []⟩
  closeStream _ := Action.pure ()
  now given := (0, given)
  stopRequested _ := false
  patience _ room _ _ := room
  patience_lt _ _ _ _ _ _ positive _ whole := by
    cases whole
    exact Nat.sub_lt positive positive

private theorem run_wearing : ∃ outcome,
    run wearing quick 1000000000 ⟨.initial, 0⟩ = (.ok outcome, ⟨.done, 1⟩) := by
  have succeeds : (run wearing quick 1000000000 ⟨.initial, 0⟩).1.isOk ∧
      (run wearing quick 1000000000 ⟨.initial, 0⟩).2.stage = .done ∧
      (run wearing quick 1000000000 ⟨.initial, 0⟩).2.world = 1 := by decide +kernel
  -- the run is not to be evaluated again
  generalize run wearing quick 1000000000 ⟨.initial, 0⟩ = whole at succeeds ⊢
  rcases whole with ⟨_ | outcome, ⟨stage, given⟩⟩
  · cases succeeds.1
  · obtain ⟨-, rfl, rfl⟩ := succeeds
    exact ⟨outcome, rfl⟩

private theorem run_worn (stage : Stage) : run wearing quick 1000000000 ⟨stage, 1⟩ =
    (.error (.error (.configuration .initial refused)), ⟨stage, 2⟩) := rfl

/-- A controller whose second run fails in the setup. -/
private theorem exists_history : ∃ first second : Attempt Nat Float,
    History wearing quick [first, second] .done ∧ ended first.result = some .done ∧
      second.before.stage = .done ∧ ended second.result = some .initial ∧
      second.after.stage = .done := by
  obtain ⟨outcome, first⟩ := run_wearing
  exact ⟨⟨1000000000, ⟨.initial, 0⟩, .ok outcome, ⟨.done, 1⟩⟩,
    ⟨1000000000, ⟨.done, 1⟩, .error (.error (.configuration .initial refused)), ⟨.done, 2⟩⟩,
    .run (.run .new _ _ first nofun) _ _ (run_worn .done) nofun, rfl, rfl, rfl, rfl⟩

/-- A run that cannot set the device up again leaves the stage of the run that succeeded before,
and its error tells another one. -/
theorem stage_kept_by_refusal : quick.isValid ∧
    ∃ attempts stage, History wearing quick attempts stage ∧
      ∃ attempt ∈ attempts, ended attempt.result ≠ some attempt.after.stage := by
  obtain ⟨first, second, history, -, -, told, left⟩ := exists_history
  refine ⟨by decide +kernel, _, _, history, second, by simp, ?_⟩
  rw [told, left]
  exact nofun

/-- The first run tells where it ended, and the second one leaves that stage. -/
theorem stage_after_runs_wearing : ∃ first second : Attempt Nat Float,
    History wearing quick [first, second] .done ∧ first.Placed wearing quick ∧
      second.Placed wearing quick ∧ LeftBy wearing quick [first, second] .done ∧
      Begins wearing quick first.before ∧ ¬Begins wearing quick second.before := by
  obtain ⟨first, second, history, done, found, told, left⟩ := exists_history
  obtain ⟨placed, leftBy⟩ := stage_after_runs history
  have earlier : first.Placed wearing quick := placed first (by simp)
  have later : second.Placed wearing quick := placed second (by simp)
  refine ⟨first, second, history, earlier, later, leftBy, ?_, fun begins => ?_⟩
  · by_contra fails
    cases done.symm.trans (earlier.stopped fails).2.2
  · have agrees := later.told_iff.mpr (.inl begins)
    rw [told, left] at agrees
    cases agrees

end Runs

end Calibration

end LoopbackCalibration
