import LoopbackCalibration.Decimal
import LoopbackCalibration.Proofs.Action.Ensures
import LoopbackCalibration.Proofs.Calibration.Agree
import LoopbackCalibration.Proofs.Simulator.Front

/-! # What an earlier run leaves behind

A calibration of a simulated transceiver is not influenced by what was set on it before. Two
devices with the same core give the same outcome, whatever their clocks show, as long as no
deadline elapses (`Calibration.run_forgets`).
-/

namespace LoopbackCalibration

open Action

variable {σ η ν α ε β : Type}

/-- A device beside the number of times that the clock was looked at. -/
structure Timed (σ : Type) where
  device : σ
  looks : Nat

/-- An action on the device, which leaves the count of looks alone. -/
@[inline] def Timed.onDevice (action : Action σ ε β) : Action (Timed σ) ε β :=
  Action.onPart Timed.device (fun device world => { world with device }) action

theorem Timed.ensures_onDevice {action : Action σ ε β} {before : σ → Prop}
    {success : β → σ → Prop} {failure : ε → σ → Prop}
    (ensures : Ensures before action success failure) :
    Ensures (fun world => before world.device) (Timed.onDevice action)
      (fun value world => success value world.device) fun cause world =>
      failure cause world.device :=
  ensures.onPart fun _ _ => rfl

/-- A clock that shows given instants one after the other. It may stand still for any number of
looks, and fall back, but in the end it passes every instant. A run that ends has looked at its
clock so many times only, so what it was shown is the beginning of such a clock. -/
structure Clock where
  /-- What the clock shows at a look; the first one is look zero. -/
  reading : Nat → Nat
  /-- The clock shows an earlier instant at so many looks at most, the first ones. -/
  passes : Nat → Nat
  le_reading : ∀ instant look, passes instant ≤ look → instant ≤ reading look

namespace Clock

instance : CoeFun Clock fun _ => Nat → Nat := ⟨reading⟩

/-- A clock that stands still for so many looks and then counts them. -/
def resting (still : Nat) : Clock where
  reading look := if look < still then 0 else look
  passes := max still
  le_reading instant look passed := by
    rw [if_neg (by omega)]
    omega

end Clock

/-- A transceiver put beside a clock. Whether a stop is requested is told by how often the clock
was looked at before. -/
def Rig.timed (device : Transceiver σ η α) (clock : Clock) (stops : Nat → Bool) :
    Rig (Timed σ) η α where
  description world := device.description world.device
  command command := Timed.onDevice (device.command command)
  openStream channels := Timed.onDevice (device.openStream channels)
  activate stream count := Timed.onDevice (device.activate stream count)
  read stream rooms wait := Timed.onDevice (device.read stream rooms wait)
  closeStream stream := Timed.onDevice (device.closeStream stream)
  now world := (clock world.looks, { world with looks := world.looks + 1 })
  stopRequested world := stops world.looks
  patience _ _ instant world := clock.passes instant - world.looks
  patience_lt _ _ instant _ world _ _ early _ := by
    have ahead : world.looks < clock.passes instant :=
      Nat.lt_of_not_le fun passed => Nat.not_lt.mpr (clock.le_reading instant _ passed) early
    exact Nat.sub_succ_lt_self _ _ ahead

/-- Related devices whose clocks were looked at as often. -/
def Timed.Beside (related : σ → σ → Prop) (left right : Timed σ) : Prop :=
  left.looks = right.looks ∧ related left.device right.device

private theorem agree_onDevice {excused : ε → Prop} {before after : σ → σ → Prop}
    {first second : Action σ ε β} (agree : Agree excused before first second (Same after)) :
    Agree excused (Timed.Beside before) (Timed.onDevice first) (Timed.onDevice second)
      (Same (Timed.Beside after)) :=
  (Agree.onPart Timed.device Timed.device (fun device world => { world with device })
    (fun device world => { world with device }) (fun left right => left.looks = right.looks)
    (fun _ _ => rfl) (fun _ _ => rfl) (fun _ _ _ _ => id) agree).weaken (fun _ _ => id)
      fun _ _ _ _ ⟨looks, same, related⟩ => ⟨same, looks, related⟩

namespace Simulator

section Ahead

variable [Arithmetic α] {first second : Simulator ν α}

/-- Devices with the same core, whose fronts are the same once some commands are carried out. -/
structure Ahead (commands : List (Command α)) (first second : Simulator ν α) : Prop where
  core : first.core = second.core
  front : commands.foldl Front.steer first.front = commands.foldl Front.steer second.front

private theorem agree_unlessFailing {operation : String}
    {action : Action (Simulator ν α) DeviceError β} {commands : List (Command α)}
    {after : β → β → Simulator ν α → Simulator ν α → Prop}
    (agree : Agree (fun _ => False) (Ahead commands) action action after) :
    Agree (fun _ => False) (Ahead commands) (unlessFailing operation action)
      (unlessFailing operation action) after := by
  intro first second ahead
  have same : first.failOperation = second.failOperation :=
    congrArg Core.failOperation ahead.core
  unfold unlessFailing
  rw [same]
  split_ifs
  · exact .error _ _ _
  · exact agree first second ahead

private theorem agree_carryOut [Numeral α] (command : Command α) (later : List (Command α)) :
    Agree (fun _ => False) (Ahead (ν := ν) (command :: later)) (carryOut command)
      (carryOut command) (Same (Ahead later)) := by
  intro first second ahead
  have result := carryOut_result command first second
  rcases done : carryOut command first with ⟨_ | _, after⟩ <;>
    rcases done' : carryOut command second with ⟨_ | _, after'⟩ <;>
    rw [done, done'] at result <;> cases result
  · exact .error _ _ _
  · have core := core_carryOut command first
    have core' := core_carryOut command second
    have front : (carryOut command first).2.front = first.front.steer command :=
      front_carryOut (by rw [done])
    have front' : (carryOut command second).2.front = second.front.steer command :=
      front_carryOut (by rw [done'])
    rw [done] at core front
    rw [done'] at core' front'
    refine .ok ⟨rfl, core.trans (ahead.core.trans core'.symm), ?_⟩
    rw [front, front']
    exact ahead.front

end Ahead

section Rigs

variable [Scalar α] [Numeral α] [NoiseSource ν α]

/-- The simulated transceiver beside a clock. -/
def timed (clock : Clock) (stops : Nat → Bool) :
    Rig (Timed (Simulator ν α)) (List Channel) α :=
  .timed transceiver clock stops

/-- The calls of two simulated devices agree, whatever the clocks show. -/
theorem agrees_timed {clock clock' : Clock} {limit : Duration}
    (deadlines : ∀ look, Acquisition.horizon ≤ clock look + limit.nanoseconds ↔
      Acquisition.horizon ≤ clock' look + limit.nanoseconds) (stops : Nat → Bool) :
    (timed (ν := ν) (α := α) clock stops).Agrees (timed clock' stops) limit
      (fun commands => Timed.Beside (Ahead commands)) (Timed.Beside Armed) where
  command command later := agree_onDevice (agree_unlessFailing (agree_carryOut command later))
  steady command left right := fun ⟨looks, core, front⟩ =>
    ⟨looks, core, congrArg (fun front => front.steer command) front⟩
  openStream channels later := agree_onDevice <| agree_unlessFailing fun _ _ ahead =>
    .ok ⟨rfl, congrArg id ahead.core, ahead.front⟩
  activate stream count := agree_onDevice <| agree_unlessFailing fun _ _ ahead =>
    .ok ⟨rfl, ahead.core, ahead.front, rfl⟩
  read stream rooms wait wait' left right := by
    rintro ⟨looks, armed⟩
    obtain ⟨same, after⟩ := armed.read stream rooms wait wait'
    exact ⟨same, looks, after⟩
  closeStream stream := agree_onDevice fun _ _ ahead => .ok ⟨rfl, ahead.core, ahead.front⟩
  clock later left right := fun ⟨looks, ahead⟩ => ⟨congrArg (· + 1) looks, ahead⟩
  look left right := fun ⟨looks, armed⟩ => ⟨congrArg (· + 1) looks, armed⟩
  deadline left right := by
    rintro ⟨looks, -⟩
    have shown := deadlines left.looks
    rwa [show clock' left.looks = clock' right.looks from congrArg clock' looks] at shown
  stopRequested left right := fun ⟨looks, _⟩ => congrArg stops looks
  note trial left right := id
  disarm left right := fun ⟨looks, armed⟩ => ⟨looks, armed.core, armed.front⟩

end Rigs

end Simulator

namespace Calibration

variable [Scalar α] [Numeral α] [NoiseSource ν α]

/-- The result of a run on a simulated device whose clock was not looked at before. -/
def runSimulated (config : Config α) (frequency : α) (clock : Clock) (stops : Nat → Bool)
    (stage : Stage) (device : Simulator ν α) : Except (Halt CalibrationError) (Outcome α) :=
  (run (Simulator.timed clock stops) config frequency ⟨stage, device, 0⟩).1

/-- The run stopped because of a deadline. -/
def TimedOut (result : Except (Halt CalibrationError) (Outcome α)) : Prop :=
  ∃ halt, result = .error halt ∧ Expires halt

/-- **Nothing is left behind.** Two simulated devices with the same core, which may differ in
all that is set on them and in their other counts, give the same outcome apart from the time
that it took, or stop with the same error, as long as no deadline elapses. The clocks of the
two runs may show what they will, except that a deadline that one of them can show must be one
that the other can show as well. -/
theorem run_forgets {first second : Simulator ν α} (same : first.core = second.core)
    (config : Config α) (frequency : α) (clock clock' : Clock) (stops : Nat → Bool)
    (stage stage' : Stage)
    (deadlines : ∀ look,
      Acquisition.horizon ≤ clock look + config.acquisitionTimeout.nanoseconds ↔
        Acquisition.horizon ≤ clock' look + config.acquisitionTimeout.nanoseconds)
    (timely : ¬TimedOut (runSimulated config frequency clock stops stage first))
    (timely' : ¬TimedOut (runSimulated config frequency clock' stops stage' second)) :
    (runSimulated config frequency clock stops stage first).map Outcome.untimed =
      (runSimulated config frequency clock' stops stage' second).map Outcome.untimed := by
  have start : Progress.Beside (fun _ _ => True)
      (Timed.Beside (Simulator.Ahead (config.setup ++ config.tuning frequency)))
      ⟨stage, first, 0⟩ ⟨stage', second, 0⟩ :=
    ⟨trivial, rfl, same, Front.foldl_steer_setup config frequency _ _⟩
  have agree := agree_run (Simulator.agrees_timed deadlines stops) rfl frequency _ _ start
  unfold runSimulated at timely timely' ⊢
  generalize run (Simulator.timed clock stops) config frequency ⟨stage, first, 0⟩ = one
    at agree timely ⊢
  generalize run (Simulator.timed clock' stops) config frequency ⟨stage', second, 0⟩ = two
    at agree timely' ⊢
  cases agree with
  | ok tallies => exact congrArg Except.ok tallies.1
  | error cause left right => rfl
  | first expired => exact (timely ⟨_, rfl, expired⟩).elim
  | second expired => exact (timely' ⟨_, rfl, expired⟩).elim

section Runs

instance : NoiseSource Unit Float where
  draw _ := (0, ())

/-- A configuration with one small grid and short captures. -/
def quick : Config Float :=
  { Config.standard with
    searchDepths := ⟨2, 2⟩
    stepsPerIter := 2
    samplesPerCapture := 4
    binsPerFft := 4 }

/-- A device that nothing was done to. Two reads make up a capture. -/
def fresh : Simulator Unit Float :=
  .initial { LoopbackModel.standard with maxRead := 2 } ()

/-- The same device after others have used it. -/
def used : Simulator Unit Float :=
  let path : PathState Float :=
    { PathState.initial with
      rf := some 1
      baseband := some 2
      iqBalance := .zero
      dcOffset := .one }
  { fresh with
    clockRate := 3
    rx := .both path
    tx := .both path
    settings := #[("ACTIVE_CHANNEL", "B")]
    activeChannel := .b
    tone := .both true
    burst := 5
    iqWrites := 7
    opened := 2
    closed := 1 }

/-- Both devices calibrate, to the same outcome. -/
theorem run_forgets_used : quick.isValid ∧ ∃ outcome other,
    runSimulated quick 1000000000 (.resting 1000) (fun _ => false) .initial fresh = .ok outcome ∧
      runSimulated quick 1000000000 (.resting 0) (fun _ => false) .txIqDcSearch
        used = .ok other ∧
      outcome.untimed = other.untimed := by
  have succeeds :
      (runSimulated quick 1000000000 (.resting 1000) (fun _ => false) .initial fresh).isOk := by
    decide +kernel
  have succeeds' :
      (runSimulated quick 1000000000 (.resting 0) (fun _ => false) .txIqDcSearch
        used).isOk := by
    decide +kernel
  have deadlines : ∀ look,
      Acquisition.horizon ≤ Clock.resting 1000 look + quick.acquisitionTimeout.nanoseconds ↔
        Acquisition.horizon ≤ Clock.resting 0 look + quick.acquisitionTimeout.nanoseconds := by
    intro look
    change 2 ^ 63 * 1000000000 ≤ (if look < 1000 then 0 else look) + 5000000000 ↔
      2 ^ 63 * 1000000000 ≤ (if look < 0 then 0 else look) + 5000000000
    split_ifs <;> omega
  have same : fresh.core = used.core := rfl
  have forgets := run_forgets same quick 1000000000 (.resting 1000) (.resting 0)
    (fun _ => false) .initial .txIqDcSearch deadlines
  refine ⟨by decide +kernel, ?_⟩
  -- the runs are not to be evaluated again
  generalize runSimulated quick 1000000000 (.resting 1000) (fun _ => false) .initial fresh = first
    at succeeds forgets ⊢
  generalize runSimulated quick 1000000000 (.resting 0) (fun _ => false)
    .txIqDcSearch used = second at succeeds' forgets ⊢
  cases first with
  | error halt => cases succeeds
  | ok outcome =>
      cases second with
      | error halt => cases succeeds'
      | ok other =>
          have alike := forgets (fun ⟨_, failed, _⟩ => nomatch failed)
            fun ⟨_, failed, _⟩ => nomatch failed
          exact ⟨outcome, other, rfl, rfl, Except.ok.inj alike⟩

end Runs

end Calibration

end LoopbackCalibration
