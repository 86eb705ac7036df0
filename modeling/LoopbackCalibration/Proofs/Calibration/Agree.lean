import Mathlib.Tactic.SplitIfs
import LoopbackCalibration.Calibration.Run
import LoopbackCalibration.Proofs.Action.Agree

/-! # Two calibrations that agree

Two rigs agree when their calls do, whatever their clocks show. Then two calibrations on them
come to the same outcome, apart from the time that they took, or stop with the same error, as
long as no deadline elapses (`Calibration.agree_run`). What the devices have in common may
grow while the first commands are given: it is told by the commands that are still ahead.
-/

namespace LoopbackCalibration

open Action

variable {σ τ η α : Type}

/-- The calls of two rigs agree. With nothing ahead the worlds are alike in all that a capture
depends on but the burst, and a burst that is started makes them alike in all. The clocks may
differ, but not in whether a deadline can be shown. -/
structure Rig.Agrees (first : Rig σ η α) (second : Rig τ η α) (limit : Duration)
    (ahead : List (Command α) → σ → τ → Prop) (armed : σ → τ → Prop) : Prop where
  command : ∀ command later, Agree (fun _ => False) (ahead (command :: later))
    (first.command command) (second.command command) (Same (ahead later))
  /-- Where nothing is ahead, a further command makes no difference. -/
  steady : ∀ command left right, ahead [] left right → ahead [command] left right
  openStream : ∀ channels later, Agree (fun _ => False) (ahead later) (first.openStream channels)
    (second.openStream channels) (Same (ahead later))
  activate : ∀ stream count, Agree (fun _ => False) (ahead []) (first.activate stream count)
    (second.activate stream count) (Same armed)
  /-- A read does not depend on how long it may wait. -/
  read : ∀ stream rooms wait wait' left right, armed left right →
    (first.read stream rooms wait left).1 = (second.read stream rooms wait' right).1 ∧
      armed (first.read stream rooms wait left).2 (second.read stream rooms wait' right).2
  closeStream : ∀ stream, Agree (fun _ => False) (ahead []) (first.closeStream stream)
    (second.closeStream stream) (Same (ahead []))
  clock : ∀ later left right, ahead later left right →
    ahead later (first.now left).2 (second.now right).2
  look : ∀ left right, armed left right → armed (first.now left).2 (second.now right).2
  deadline : ∀ left right, armed left right →
    (Acquisition.horizon ≤ (first.now left).1 + limit.nanoseconds ↔
      Acquisition.horizon ≤ (second.now right).1 + limit.nanoseconds)
  stopRequested : ∀ left right, armed left right →
    first.stopRequested left = second.stopRequested right
  note : ∀ trial left right, ahead [] left right →
    ahead [] (first.note trial left) (second.note trial right)
  disarm : ∀ left right, armed left right → ahead [] left right

/-- The capture ran into its deadline. -/
def AcquisitionError.Expired (error : AcquisitionError) : Prop := error.isTimeout

/-- The calibration has run into the deadline of a capture. -/
def CalibrationError.Expired : CalibrationError → Prop
  | .acquisition _ source => source.Expired
  | _ => False

/-- What stopped the computation is an error of a kind. -/
def Halt.IsError {ε : Type} (kind : ε → Prop) : Halt ε → Prop
  | .error cause => kind cause
  | .overflow => False

variable {first : Rig σ η α} {second : Rig τ η α} {limit : Duration}
  {ahead : List (Command α) → σ → τ → Prop} {armed : σ → τ → Prop}

namespace Acquisition

variable [Arithmetic α]

/-- A round of the first capture in which something is read, and the same round of the second
one. The clocks may differ, so the second one can be late alone; that is excused. -/
private theorem matches_of_read (agrees : first.Agrees second limit ahead armed) {stream : η}
    {options : AcquisitionOptions} {requested instant : Nat} (deadline' : Nat)
    {raw : RawCapture α} {left looked after : σ} {right : τ} {wait : Duration}
    {result : Except StatusCode (Delivery α)} {one : Except AcquisitionError (RawCapture α) × σ}
    (related : armed left right) (missing : ¬requested ≤ raw.size)
    (wanted : ¬(options.cancelled || first.stopRequested left) = true)
    (look : first.now left = (instant, looked)) :
    first.read stream [requested - raw.size, requested - raw.size] wait looked = (result, after) →
    (∀ after', armed after after' → Matches AcquisitionError.Expired (Same armed) one
      (match result with
      | .ok delivery => collect second stream options requested deadline'
          (raw.append delivery (min delivery.count (requested - raw.size))) after'
      | .error status =>
        if status.isTimeout then
          collect second stream options requested deadline' raw after'
        else
          (.error (.readStatus status raw.size), after'))) →
    Matches AcquisitionError.Expired (Same armed) one
      (collect second stream options requested deadline' raw right) := by
  intro read goesOn
  have looks := agrees.look left right related
  rw [agrees.stopRequested left right related] at wanted
  rcases look' : second.now right with ⟨instant', looked'⟩
  rw [look, look'] at looks
  by_cases late : deadline' ≤ instant'
  · rw [collect_eq, if_neg missing, if_neg wanted, look', if_pos late]
    exact .second rfl
  · obtain ⟨same, related'⟩ := agrees.read stream [requested - raw.size, requested - raw.size]
      wait ⟨min options.readTimeout.nanoseconds (deadline' - instant')⟩ looked looked' looks
    rw [read] at same related'
    rcases read' : second.read stream _ _ looked' with ⟨result', right'⟩
    rw [read'] at same related'
    cases same
    rw [collect_of_read missing wanted look' late read']
    exact goesOn right' related'

/-- Reading for two captures. Induction on the rounds of the first one. -/
private theorem agree_collect (agrees : first.Agrees second limit ahead armed) (stream : η)
    (options : AcquisitionOptions) (requested deadline deadline' : Nat) (raw : RawCapture α) :
    Agree AcquisitionError.Expired armed
      (collect first stream options requested deadline raw)
      (collect second stream options requested deadline' raw) (Same armed) := by
  intro left right related
  fun_induction collect first stream options requested deadline raw left generalizing right with
  | case1 raw left complete =>
      rw [collect_complete second stream options complete]
      exact .ok ⟨rfl, related⟩
  | case2 raw left missing stopped =>
      rw [collect_eq, if_neg missing, ← agrees.stopRequested left right related, if_pos stopped]
      exact .error _ _ _
  | case3 => exact .first rfl
  | case4 raw left missing wanted instant looked look early room wait delivery after read ih =>
      exact matches_of_read agrees deadline' related missing wanted look read ih
  | case5 raw left missing wanted instant looked look early room wait status after read again
      ih =>
      refine matches_of_read agrees deadline' related missing wanted look read ?_
      simp only [again, if_true]
      exact ih
  | case6 raw left missing wanted instant looked look early room wait status after read fatal =>
      refine matches_of_read agrees deadline' related missing wanted look read ?_
      simp only [fatal, Bool.false_eq_true, if_false]
      exact fun _ _ => .error _ _ _

/-- A capture whose burst has been started. -/
theorem acquire_of_started {rig : Rig σ η α} {stream : η} {requested : Nat}
    {options : AcquisitionOptions} {world after : σ}
    (started : rig.activate stream requested world = (.ok (), after)) :
    acquire rig stream requested options world =
      if capacity < requested then (.error .overflow, after)
      else if horizon ≤ (rig.now after).1 + options.timeout.nanoseconds then
        (.error .overflow, (rig.now after).2)
      else
        Action.mapError .error
          (Action.bind (collect rig stream options requested
            ((rig.now after).1 + options.timeout.nanoseconds) .empty)
            fun raw => Action.pure raw.block) (rig.now after).2 := by
  unfold acquire
  rw [started]
  dsimp only
  split_ifs
  · rfl
  · rfl
  · unfold Action.mapError Action.bind
    rcases collect rig stream options requested _ .empty (rig.now after).2 with ⟨_ | _, _⟩ <;> rfl

/-- Two captures come to the same samples, unless one of them runs into its deadline. -/
theorem agree_acquire (agrees : first.Agrees second limit ahead armed) (stream : η)
    (requested : Nat) (options : AcquisitionOptions) (timeout : options.timeout = limit) :
    Agree (Halt.IsError AcquisitionError.Expired) (ahead [])
      (acquire first stream requested options) (acquire second stream requested options)
      (Same armed) := by
  intro left right related
  have activated := agrees.activate stream requested left right related
  rcases started : first.activate stream requested left with ⟨_ | _, left'⟩ <;>
    rcases started' : second.activate stream requested right with ⟨_ | _, right'⟩ <;>
    rw [started, started'] at activated
  · unfold acquire
    rw [started, started']
    cases activated with
    | error cause left right => exact .error _ _ _
    | first exempt | second exempt => exact exempt.elim
  · cases activated with
    | first exempt => exact exempt.elim
  · cases activated with
    | second exempt => exact exempt.elim
  · rw [acquire_of_started started, acquire_of_started started', timeout]
    cases activated with
    | ok both =>
        have looked := agrees.look _ _ both.2
        have deadline := agrees.deadline _ _ both.2
        split_ifs with large unfit unfit' unfit'
        · exact .error _ _ _
        · exact .error _ _ _
        · exact (unfit' (deadline.mp unfit)).elim
        · exact (unfit (deadline.mpr unfit')).elim
        · have collects := agree_collect agrees stream options requested
            ((first.now left').1 + limit.nanoseconds) ((second.now right').1 + limit.nanoseconds)
            .empty
          refine (collects.andThen fun raw => agree_pure raw.block).mapError ?_ _ _ looked
          exact fun _ => id

end Acquisition

/-- Related worlds beside related stages. -/
def Progress.Beside (stages : Stage → Stage → Prop) (related : σ → τ → Prop) (left : Progress σ)
    (right : Progress τ) : Prop :=
  stages left.stage right.stage ∧ related left.world right.world

open Progress

private theorem agree_onWorld {ε β : Type} {excused : ε → Prop} {before : σ → τ → Prop}
    {one : Action σ ε β} {two : Action τ ε β} {after : σ → τ → Prop}
    (agree : Agree excused before one two (Same after)) (stages : Stage → Stage → Prop) :
    Agree excused (Beside stages before) (onWorld one) (onWorld two) (Same (Beside stages after)) :=
  (Agree.onPart Progress.world Progress.world (fun world progress => { progress with world })
    (fun world progress => { progress with world })
    (fun left right => stages left.stage right.stage) (fun _ _ => rfl) (fun _ _ => rfl)
    (fun _ _ _ _ => id) agree).weaken (fun _ _ => id)
      fun _ _ _ _ ⟨stage, same, related⟩ => ⟨same, stage, related⟩

/-- Stages beside the worlds make no difference. -/
theorem Rig.Agrees.progress (agrees : first.Agrees second limit ahead armed)
    (stages : Stage → Stage → Prop) :
    (Progress.rig first).Agrees (Progress.rig second) limit
      (fun commands => Beside stages (ahead commands)) (Beside stages armed) where
  command command later := agree_onWorld (agrees.command command later) stages
  steady command _ _ := And.imp_right (agrees.steady command _ _)
  openStream channels later := agree_onWorld (agrees.openStream channels later) stages
  activate stream count := agree_onWorld (agrees.activate stream count) stages
  read stream rooms wait wait' left right related := by
    obtain ⟨same, after⟩ := agrees.read stream rooms wait wait' left.world right.world related.2
    exact ⟨same, related.1, after⟩
  closeStream stream := agree_onWorld (agrees.closeStream stream) stages
  clock later _ _ := And.imp_right (agrees.clock later _ _)
  look _ _ := And.imp_right (agrees.look _ _)
  deadline _ _ related := agrees.deadline _ _ related.2
  stopRequested _ _ related := agrees.stopRequested _ _ related.2
  note trial _ _ := And.imp_right (agrees.note trial _ _)
  disarm _ _ := And.imp_right (agrees.disarm _ _)

/-- The stream is opened and closed on both sides. -/
theorem agree_withStream {ε β β' : Type} {excused : ε → Prop} {first : Rig σ η α}
    {second : Rig τ η α} {openFailed closeFailed : DeviceError → ε} {body : η → Action σ ε β}
    {body' : η → Action τ ε β'} {before opened : σ → τ → Prop}
    {finished after : β → β' → σ → τ → Prop}
    (opens : Agree (fun _ => False) before (first.openStream Channel.all)
      (second.openStream Channel.all) (Same opened))
    (uses : ∀ stream, Agree excused opened (body stream) (body' stream) finished)
    (closes : ∀ stream value other, Agree (fun _ => False) (finished value other)
      (first.closeStream stream) (second.closeStream stream) (Same (after value other))) :
    Agree excused before (withStream first openFailed closeFailed body)
      (withStream second openFailed closeFailed body') after := by
  intro left right related
  have began := opens left right related
  unfold withStream
  generalize first.openStream Channel.all left = outcome at began ⊢
  generalize second.openStream Channel.all right = outcome' at began ⊢
  cases began with
  | error cause left right => exact .error _ _ _
  | first exempt | second exempt => exact exempt.elim
  | @ok stream _ left right both =>
      obtain ⟨rfl, related⟩ := both
      have used := uses stream left right related
      dsimp only
      generalize body stream left = outcome at used ⊢
      generalize body' stream right = outcome' at used ⊢
      cases used with
      | error cause left right => exact .error _ _ _
      | first exempt => exact .first exempt
      | second exempt => exact .second exempt
      | @ok value other left right related =>
          have closed := closes stream value other left right related
          dsimp only
          generalize first.closeStream stream left = outcome at closed ⊢
          generalize second.closeStream stream right = outcome' at closed ⊢
          cases closed with
          | ok both => exact .ok both.2
          | error cause left right => exact .error _ _ _
          | first exempt | second exempt => exact exempt.elim

/-- The outcome without the time that the calibration took. -/
def Outcome.untimed (outcome : Outcome α) : Outcome α := { outcome with elapsed := ⟨0⟩ }

namespace Calibration

/-- A calibration stops because a deadline elapsed. -/
abbrev Expires : Halt CalibrationError → Prop := Halt.IsError CalibrationError.Expired

variable {stages : Stage → Stage → Prop} {config : Config α} {stream : η}

theorem agree_issueDuring (agrees : first.Agrees second limit ahead armed) (stage : Stage)
    (commands rest : List (Command α)) :
    Agree Expires (Beside stages (ahead (commands ++ rest))) (issueDuring first stage commands)
      (issueDuring second stage commands) (Same (Beside stages (ahead rest))) :=
  agree_forEach (fun commands => Beside stages (ahead commands)) rest fun command later =>
    ((agrees.progress stages).command command later).mapError fun _ => False.elim

private theorem agree_issueDuring_steady (agrees : first.Agrees second limit ahead armed)
    (stage : Stage) (commands : List (Command α)) :
    Agree Expires (Beside stages (ahead [])) (issueDuring first stage commands)
      (issueDuring second stage commands) (Same (Beside stages (ahead []))) := by
  refine agree_forEach (fun _ => Beside stages (ahead [])) [] fun command _ => ?_
  have given := (agrees.progress stages).command command []
  exact (given.weaken (fun _ _ => And.imp_right (agrees.steady command _ _))
    fun _ _ _ _ => id).mapError fun _ => False.elim

/-- A step that does the same in the same stages with nothing ahead. -/
abbrev Parallel {β : Type} (ahead : List (Command α) → σ → τ → Prop) (step : Step σ β)
    (step' : Step τ β) : Prop :=
  Agree Expires (Beside Eq (ahead [])) step step' (Same (Beside Eq (ahead [])))

theorem agree_issue (agrees : first.Agrees second limit ahead armed)
    (commands : List (Command α)) :
    Agree Expires (Beside Eq (ahead commands)) (issue first commands) (issue second commands)
      (Same (Beside Eq (ahead []))) := by
  rintro left right ⟨stage, related⟩
  unfold issue
  rw [← stage]
  exact agree_issueDuring agrees left.stage commands [] left right
    ⟨stage, (List.append_nil commands).symm ▸ related⟩

theorem parallel_issue (agrees : first.Agrees second limit ahead armed)
    (commands : List (Command α)) :
    Parallel ahead (issue first commands) (issue second commands) := by
  rintro left right ⟨stage, related⟩
  unfold issue
  rw [← stage]
  exact agree_issueDuring_steady agrees left.stage commands left right ⟨stage, related⟩

theorem parallel_advance : Parallel ahead advance advance :=
  agree_modify fun _ _ ⟨same, related⟩ =>
    ⟨congrArg (fun stage => stage.next?.getD stage) same, related⟩

theorem parallel_note (agrees : first.Agrees second limit ahead armed) (trial : Trial α) :
    Parallel ahead (note first trial) (note second trial) :=
  agree_modify fun _ _ => And.imp_right (agrees.note trial _ _)

theorem parallel_countCandidates : Parallel ahead (countCandidates config)
    (countCandidates config) := by
  unfold countCandidates
  split_ifs
  · exact agree_pure _
  · exact agree_fail _

/-- The clocks may show different instants. -/
theorem agree_clock (agrees : first.Agrees second limit ahead armed) (later : List (Command α)) :
    Agree Expires (Beside stages (ahead later)) (clock first) (clock second)
      fun _ _ => Beside stages (ahead later) :=
  fun _ _ ⟨stage, related⟩ => .ok ⟨stage, agrees.clock later _ _ related⟩

theorem agree_enter (stage : Stage) (later : List (Command α)) :
    Agree Expires (Beside stages (ahead later)) (enter stage) (enter stage)
      (Same (Beside Eq (ahead later))) :=
  agree_modify fun _ _ ⟨_, related⟩ => ⟨rfl, related⟩

section Captures

variable [Arithmetic α]

theorem parallel_capture (agrees : first.Agrees second limit ahead armed)
    (timeout : config.acquisitionTimeout = limit) :
    Parallel ahead (capture first config stream) (capture second config stream) := by
  rintro left right ⟨stage, related⟩
  have acquires := Acquisition.agree_acquire (agrees.progress Eq) stream config.samplesPerCapture
    config.acquisitionOptions timeout
  unfold capture
  rw [← stage]
  refine Agree.mapError (acquires.weaken (fun _ _ => id) fun _ _ _ _ => ?_) ?_ left right
    ⟨stage, related⟩
  · exact And.imp_right (And.imp_right (agrees.disarm _ _))
  · rintro (cause | _) expired
    · exact expired
    · exact expired

end Captures

variable [Scalar α]

theorem parallel_adjustGain (agrees : first.Agrees second limit ahead armed)
    (timeout : config.acquisitionTimeout = limit) :
    Parallel ahead (adjustGain first config stream) (adjustGain second config stream) :=
  (parallel_issue agrees _).andThen fun _ => (parallel_capture agrees timeout).andThen fun _ =>
    (parallel_issue agrees _).andThen fun _ => agree_pure _

theorem parallel_searchReceive (agrees : first.Agrees second limit ahead armed)
    (timeout : config.acquisitionTimeout = limit) :
    Parallel ahead (searchReceive first config stream) (searchReceive second config stream) :=
  Descent.agree_tryGrids (fun _ _ _ => (parallel_issue agrees _).andThen fun _ =>
    (parallel_capture agrees timeout).andThen fun _ =>
      (parallel_note agrees _).andThen fun _ => agree_pure _) _ _

theorem parallel_searchTransmit (agrees : first.Agrees second limit ahead armed)
    (timeout : config.acquisitionTimeout = limit) :
    Parallel ahead (searchTransmit first config stream) (searchTransmit second config stream) :=
  Descent.agree_tryGrids (fun _ _ _ => (parallel_issue agrees _).andThen fun _ =>
    (parallel_capture agrees timeout).andThen fun _ =>
      (parallel_note agrees _).andThen fun _ => agree_pure _) _ _

/-- Both runs gave an outcome, the same one but for the time that it took. -/
def Tallies (related : Progress σ → Progress τ → Prop) (outcome other : Outcome α)
    (left : Progress σ) (right : Progress τ) : Prop :=
  outcome.untimed = other.untimed ∧ related left right

theorem agree_calibrate (agrees : first.Agrees second limit ahead armed)
    (timeout : config.acquisitionTimeout = limit) (frequency : α) :
    Agree Expires (Beside stages (ahead (config.tuning frequency)))
      (calibrate first config frequency stream) (calibrate second config frequency stream)
      (Tallies (Beside Eq (ahead []))) := by
  unfold calibrate
  refine (agree_clock agrees _).bind fun started started' => ?_
  refine (agree_enter .initial _).andThen fun _ => ?_
  refine (agree_issue agrees _).andThen fun _ => ?_
  refine parallel_advance.andThen fun _ => ?_
  refine (parallel_adjustGain agrees timeout).andThen fun rxPgaGain => ?_
  refine parallel_advance.andThen fun _ => ?_
  refine (parallel_capture agrees timeout).andThen fun rxInitial => ?_
  refine (parallel_searchReceive agrees timeout).andThen fun rxIq => ?_
  refine (parallel_issue agrees _).andThen fun _ => ?_
  refine (parallel_capture agrees timeout).andThen fun rxFinal => ?_
  refine parallel_advance.andThen fun _ => ?_
  refine (parallel_issue agrees _).andThen fun _ => ?_
  refine (parallel_capture agrees timeout).andThen fun txInitial => ?_
  refine (parallel_searchTransmit agrees timeout).andThen fun tx => ?_
  refine (parallel_issue agrees _).andThen fun _ => ?_
  refine (parallel_issue agrees _).andThen fun _ => ?_
  refine (parallel_capture agrees timeout).andThen fun txFinal => ?_
  refine parallel_advance.andThen fun _ => ?_
  refine parallel_countCandidates.andThen fun candidates => ?_
  refine (agree_clock agrees _).bind fun finished finished' => ?_
  exact fun _ _ related => .ok ⟨rfl, related⟩

/-- **Runs that agree.** Two runs on rigs that agree come to the same outcome, apart from the
time that they took, or stop for the same cause, unless one of them runs into a deadline. -/
theorem agree_run (agrees : first.Agrees second limit ahead armed)
    (timeout : config.acquisitionTimeout = limit) (frequency : α) :
    Agree Expires (Beside stages (ahead (config.setup ++ config.tuning frequency)))
      (run first config frequency) (run second config frequency)
      (Tallies (Beside Eq (ahead []))) := by
  unfold run
  refine (agree_issueDuring agrees _ _ _).andThen fun _ => ?_
  refine agree_withStream ((agrees.progress stages).openStream _ _)
    (fun stream => agree_calibrate agrees timeout frequency) fun stream value other => ?_
  intro left right ⟨alike, related⟩
  exact ((agrees.progress Eq).closeStream stream).weaken (fun _ _ => id)
    (fun _ _ _ _ ⟨same, after⟩ => ⟨same, alike, after⟩) left right related

end Calibration

end LoopbackCalibration
