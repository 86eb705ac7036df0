import LoopbackCalibration.Proofs.Calibration.Trials

/-! # Steps without trials

Between its searches a calibration issues commands, takes captures and reads the clock.
None of these steps tries anything, also when it fails, and only the tuning and the
writing of the receive result touch the receive corrections.
-/

namespace LoopbackCalibration

variable {σ η α β : Type}

/-- Whether events neither try anything nor write a receive correction. -/
def Silent (events : List (Event η α)) : Prop :=
  Untried events ∧ ∀ channel, ∀ event ∈ events, event.write? .iqBalance .rx channel = none

theorem silent_nil : Silent ([] : List (Event η α)) :=
  ⟨List.forall_mem_nil _, fun _ => List.forall_mem_nil _⟩

theorem Captures.silent [Arithmetic α] {stream : η} {requested : Nat}
    {burst : List (Event η α)} {block : SampleBlock α}
    (captures : Captures stream requested burst block) : Silent burst :=
  ⟨untried_of_serves captures.serves, fun _ event served =>
    (captures.serves event served).write?_eq_none⟩

namespace Calibration

variable {rig : Rig σ η α}

theorem Emits.untried {action : Action (Progress (Journal σ η α)) (Halt CalibrationError) β}
    (emits : Emits action (fun _ => Silent) Untried) :
    Emits action (fun _ => Untried) Untried :=
  emits.weaken (fun _ _ => And.left) fun _ => id

/-- Whether an action writes nothing down. -/
def Mute (action : Action (Progress (Journal σ η α)) (Halt CalibrationError) β) : Prop :=
  Emits action (fun _ emitted => emitted = []) fun emitted => emitted = []

private theorem mute_of_unchanged
    {action : Action (Progress (Journal σ η α)) (Halt CalibrationError) β}
    (unchanged : ∀ progress, (action progress).2.world.events = progress.world.events) :
    Mute action := by
  intro progress
  refine ⟨[], by rw [unchanged, List.append_nil], ?_⟩
  rcases (action progress).1 with _ | value <;> rfl

theorem mute_clock : Mute (clock (Journal.rig rig)) :=
  mute_of_unchanged fun _ => rfl

theorem mute_enter (stage : Stage) : Mute (σ := σ) (η := η) (α := α) (enter stage) :=
  mute_of_unchanged fun _ => rfl

theorem mute_advance : Mute (σ := σ) (η := η) (α := α) advance :=
  mute_of_unchanged fun _ => rfl

theorem mute_countCandidates {config : Config α} :
    Mute (σ := σ) (η := η) (α := α) (countCandidates config) := by
  apply mute_of_unchanged
  intro progress
  unfold countCandidates
  split <;> rfl

theorem Mute.silent {action : Action (Progress (Journal σ η α)) (Halt CalibrationError) β}
    (mute : Mute action) : Emits action (fun _ => Silent) Untried :=
  Emits.weaken mute (fun _ _ same => same ▸ silent_nil) fun _ same => same ▸ silent_nil.1

theorem silent_clock : Emits (clock (Journal.rig rig)) (fun _ => Silent) Untried :=
  mute_clock.silent

theorem silent_enter (stage : Stage) :
    Emits (σ := σ) (η := η) (α := α) (enter stage) (fun _ => Silent) Untried :=
  (mute_enter stage).silent

theorem silent_advance :
    Emits (σ := σ) (η := η) (α := α) advance (fun _ => Silent) Untried :=
  mute_advance.silent

theorem silent_countCandidates {config : Config α} :
    Emits (σ := σ) (η := η) (α := α) (countCandidates config) (fun _ => Silent) Untried :=
  mute_countCandidates.silent

/-- Moving the transmit tones apart leaves the receive corrections alone. -/
theorem silent_issue_separation {config : Config α} :
    Emits (issue (Journal.rig rig) config.separation) (fun _ => Silent) Untried := by
  refine (emits_issue config.separation).weaken ?_ fun _ => untried_of_gives
  rintro _ _ rfl
  refine ⟨untried_issued _, fun channel event member => ?_⟩
  obtain ⟨command, listed, outcome, rfl⟩ := Event.gives_of_mem_issued member
  obtain ⟨tuned, -, rfl⟩ := List.mem_map.mp listed
  rfl

theorem untried_issue (commands : List (Command α)) :
    Emits (issue (Journal.rig rig) commands) (fun _ => Untried) Untried :=
  (emits_issue commands).weaken (by
    rintro _ _ rfl
    exact untried_issued commands) fun _ => untried_of_gives

theorem silent_capture [Arithmetic α] {config : Config α} {stream : η} :
    Emits (capture (Journal.rig rig) config stream) (fun _ => Silent) Untried :=
  (emits_capture config stream).weaken (fun _ _ => Captures.silent) fun _ => untried_of_serves

section Confined

variable {allowed : Command α → Prop}

theorem confined_issue (commands : List (Command α)) :
    Emits (issue (Journal.rig rig) commands)
      (fun _ => Confined (· ∈ commands)) (Confined (· ∈ commands)) :=
  (emits_issue commands).weaken (by
    rintro _ _ rfl
    exact confined_issued commands) fun _ => confined_of_gives

theorem confined_capture [Arithmetic α] {config : Config α} {stream : η} :
    Emits (capture (Journal.rig rig) config stream)
      (fun _ => Confined allowed) (Confined allowed) :=
  (emits_capture config stream).weaken (fun _ _ captures => confined_of_serves captures.serves)
    fun _ => confined_of_serves

end Confined

end Calibration

theorem Calibration.untried_adjustGain [Scalar α] {rig : Rig σ η α} {config : Config α}
    {stream : η} :
    Emits (adjustGain (Journal.rig rig) config stream) (fun _ => Untried) Untried := by
  unfold adjustGain
  refine (untried_issue _).bind (fun _ => id) fun _ starting started => ?_
  refine silent_capture.untried.bind (fun _ => started.append) fun block burst captured => ?_
  have before := started.append captured
  refine (untried_issue _).bind ?_ fun _ setting set => emits_pure _ ?_
  · intro broken untried
    rw [← List.append_assoc]
    exact before.append untried
  · rw [List.append_nil, ← List.append_assoc]
    exact before.append set

/-- Adjusting the gain gives commands that set it, and no others. -/
theorem Calibration.confined_adjustGain [Scalar α] {rig : Rig σ η α} {config : Config α}
    {stream : η} :
    Emits (adjustGain (Journal.rig rig) config stream)
      (fun _ => Confined (fun command => ∃ gains, command ∈ Config.receiveGain gains))
      (Confined (fun command => ∃ gains, command ∈ Config.receiveGain gains)) := by
  have sets : ∀ gains, Emits (issue (Journal.rig rig) (Config.receiveGain gains))
      (fun _ => Confined (fun command => ∃ gains, command ∈ Config.receiveGain gains))
      (Confined (fun command => ∃ gains, command ∈ Config.receiveGain gains)) :=
    fun gains => (confined_issue _).weaken
      (fun _ _ confined => confined.mono fun _ listed => ⟨gains, listed⟩)
      fun _ confined => confined.mono fun _ listed => ⟨gains, listed⟩
  unfold adjustGain
  refine (sets _).bind (fun _ => id) fun _ starting started => ?_
  refine confined_capture.bind (fun _ => started.append) fun block burst captured => ?_
  have before := started.append captured
  refine (sets _).bind ?_ fun _ setting set => emits_pure _ ?_
  · intro broken confined
    rw [← List.append_assoc]
    exact before.append confined
  · rw [List.append_nil, ← List.append_assoc]
    exact before.append set

end LoopbackCalibration
