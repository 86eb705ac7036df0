import Mathlib.Tactic.SplitIfs
import LoopbackCalibration.Calibration.Commands
import LoopbackCalibration.Simulator

/-! # The front end of the simulated transceiver

What a simulated transceiver delivers depends on its signal settings, its `Simulator.front`,
and on what a run does not set, its `Simulator.core`. A command that is carried out changes
only the front, in a way that `Front.steer` tells from the front alone, and the commands before
the first capture of a run leave nothing of the front that they found
(`Front.foldl_steer_setup`).
-/

namespace LoopbackCalibration

variable {ν α : Type}

/-- What is set on a transceiver of the settings that a sample depends on. The oscillators of
both channels are tuned through the first one. -/
structure Front (α : Type) where
  rxOscillator : α
  txOscillator : α
  rxBaseband : PerChannel α
  txBaseband : PerChannel α
  rxGain : PerChannel α
  rxRate : PerChannel α
  rxBalance : PerChannel (Phasor α)
  txBalance : PerChannel (Phasor α)
  txOffset : PerChannel (Phasor α)
  /-- The channel that channel settings apply to. -/
  activeChannel : Channel
  tone : PerChannel Bool

/-- The front after a command. -/
def Front.steer (front : Front α) : Command α → Front α
  | .frequency .rx .a .rf hertz => { front with rxOscillator := hertz }
  | .frequency .tx .a .rf hertz => { front with txOscillator := hertz }
  | .frequency .rx channel .baseband hertz =>
    { front with rxBaseband := front.rxBaseband.set channel hertz }
  | .frequency .tx channel .baseband hertz =>
    { front with txBaseband := front.txBaseband.set channel hertz }
  | .gain .rx channel .pga decibels => { front with rxGain := front.rxGain.set channel decibels }
  | .dcOffset .tx channel offset => { front with txOffset := front.txOffset.set channel offset }
  | .iqBalance .rx channel balance =>
    { front with rxBalance := front.rxBalance.set channel balance }
  | .iqBalance .tx channel balance =>
    { front with txBalance := front.txBalance.set channel balance }
  | .sampleRate .rx channel hertz => { front with rxRate := front.rxRate.set channel hertz }
  | .setting key value =>
    if key = "ACTIVE_CHANNEL" then
      match Channel.ofLetter? value with
      | some channel => { front with activeChannel := channel }
      | none => front
    else if key = "ENABLE_TXTSP_CONST" then
      { front with tone := front.tone.set front.activeChannel (value == "true") }
    else
      front
  | _ => front

/-- The commands before the first capture overwrite the whole front. -/
theorem Front.foldl_steer_setup [Arithmetic α] (config : Config α) (frequency : α)
    (first second : Front α) :
    (config.setup ++ config.tuning frequency).foldl Front.steer first =
      (config.setup ++ config.tuning frequency).foldl Front.steer second := by
  rfl

/-- What a device brings into a run that no command sets: what it models, the state of its
noise and of its counts that samples depend on, and the failures that it was told to have. -/
structure Core (ν α : Type) where
  model : LoopbackModel α
  noise : ν
  sampleClock : Nat
  reads : Nat
  failReadsAfter : Option Nat
  stalled : Bool
  failOperation : Option String

namespace Simulator

/-- The core of a device. -/
def core (device : Simulator ν α) : Core ν α where
  model := device.model
  noise := device.noise
  sampleClock := device.sampleClock
  reads := device.reads
  failReadsAfter := device.failReadsAfter
  stalled := device.stalled
  failOperation := device.failOperation

/-- The front of a device. -/
def front [Arithmetic α] (device : Simulator ν α) : Front α where
  rxOscillator := device.rx.a.frequency .rf
  txOscillator := device.tx.a.frequency .rf
  rxBaseband := device.rx.map fun path => path.frequency .baseband
  txBaseband := device.tx.map fun path => path.frequency .baseband
  rxGain := device.rx.map fun path => (path.gains .pga).getD 0
  rxRate := device.rx.map PathState.sampleRate
  rxBalance := device.rx.map PathState.iqBalance
  txBalance := device.tx.map PathState.iqBalance
  txOffset := device.tx.map PathState.dcOffset
  activeChannel := device.activeChannel
  tone := device.tone

section Commands

variable [Arithmetic α] [Numeral α]

/-- Whether a command can be carried out does not depend on the device. -/
theorem carryOut_result (command : Command α) (first second : Simulator ν α) :
    (carryOut command first).1 = (carryOut command second).1 := by
  cases command with
  | sampleRate direction channel hertz =>
      simp only [carryOut, writeSampleRate]
      split_ifs <;> rfl
  | setting key value =>
      simp only [carryOut, writeSetting]
      split_ifs
      · cases Channel.ofLetter? value <;> rfl
      · rfl
      · rfl
  | _ => rfl

/-- A command changes nothing but what is set and the count of corrections. -/
theorem carryOut_keeps (command : Command α) (device : Simulator ν α) :
    ∃ clockRate rx tx settings activeChannel tone iqWrites, (carryOut command device).2 =
      { device with clockRate, rx, tx, settings, activeChannel, tone, iqWrites } := by
  cases command with
  | sampleRate direction channel hertz =>
      simp only [carryOut, writeSampleRate]
      split_ifs
      · exact ⟨_, _, _, _, _, _, _, rfl⟩
      · cases direction <;> exact ⟨_, _, _, _, _, _, _, rfl⟩
  | setting key value =>
      simp only [carryOut, writeSetting]
      split_ifs
      · cases Channel.ofLetter? value <;> exact ⟨_, _, _, _, _, _, _, rfl⟩
      · exact ⟨_, _, _, _, _, _, _, rfl⟩
      · exact ⟨_, _, _, _, _, _, _, rfl⟩
  | masterClockRate => exact ⟨_, _, _, _, _, _, _, rfl⟩
  | frequency direction | gain direction | antenna direction | dcOffset direction
  | iqBalance direction | dcOffsetMode direction =>
      cases direction <;> exact ⟨_, _, _, _, _, _, _, rfl⟩

theorem core_carryOut (command : Command α) (device : Simulator ν α) :
    (carryOut command device).2.core = device.core := by
  obtain ⟨_, _, _, _, _, _, _, kept⟩ := carryOut_keeps command device
  rw [kept]
  rfl

theorem burst_carryOut (command : Command α) (device : Simulator ν α) :
    (carryOut command device).2.burst = device.burst := by
  obtain ⟨_, _, _, _, _, _, _, kept⟩ := carryOut_keeps command device
  rw [kept]

/-- A command that is carried out steers the front. -/
theorem front_carryOut {command : Command α} {device : Simulator ν α}
    (success : (carryOut command device).1 = .ok ()) :
    (carryOut command device).2.front = device.front.steer command := by
  cases command with
  | frequency direction channel stage =>
      cases direction <;> cases channel <;> cases stage <;> rfl
  | gain direction channel stage => cases direction <;> cases channel <;> cases stage <;> rfl
  | antenna direction channel => cases direction <;> cases channel <;> rfl
  | dcOffset direction channel => cases direction <;> cases channel <;> rfl
  | iqBalance direction channel => cases direction <;> cases channel <;> rfl
  | dcOffsetMode direction channel => cases direction <;> cases channel <;> rfl
  | masterClockRate => rfl
  | sampleRate direction channel hertz =>
      simp only [carryOut, writeSampleRate] at success ⊢
      split_ifs at success ⊢
      cases direction <;> cases channel <;> rfl
  | setting key value =>
      simp only [carryOut, writeSetting, Front.steer] at success ⊢
      split_ifs at success ⊢
      · cases named : Channel.ofLetter? value <;> rw [named] at success
        rfl
      · rfl
      · rfl

end Commands

section Reads

variable [Scalar α] {first second : Simulator ν α}

private theorem txPath_eq (device : Simulator ν α) (channel : Channel) :
    device.txPath channel =
      { tone := device.front.tone.get channel
        oscillator := device.front.txBaseband.get channel
        image := Signal.imbalanceError (device.core.model.txImbalance.get channel)
          (device.front.txBalance.get channel)
        offset := device.core.model.txLeakage.get channel +
          device.front.txOffset.get channel } := by
  cases channel <;> rfl

private theorem rxPath_eq (device : Simulator ν α) (channel : Channel) :
    device.rxPath channel =
      { rate := device.front.rxRate.get channel
        shift := device.front.txOscillator - device.front.rxOscillator -
          device.front.rxBaseband.get channel
        gain := device.core.model.toneAmplitude *
          Scalar.exp10 (device.front.rxGain.get channel / Arithmetic.ofCount 20)
        image := Signal.imbalanceError (device.core.model.rxImbalance.get channel)
          (device.front.rxBalance.get channel) } := by
  cases channel <;> rfl

/-- Devices with the same settings. Their models may differ in the seed and in how much one read
brings. -/
structure Alike (first second : Simulator ν α) : Prop where
  front_eq : first.front = second.front
  model_eq : ∃ seed maxRead, second.model = { first.model with seed, maxRead }

/-- Devices with the same settings have the same signal paths. -/
theorem Alike.chain_eq (alike : Alike first second) (channel : Channel) :
    first.chain channel = second.chain channel := by
  obtain ⟨front, seed, maxRead, model⟩ := alike
  have core : second.core.model = { first.core.model with seed, maxRead } := model
  unfold chain
  rw [txPath_eq, txPath_eq, rxPath_eq, txPath_eq second, txPath_eq second, rxPath_eq second, core,
    model, front]

/-- The signal paths depend on nothing but the core and the front. -/
theorem chain_congr (core : first.core = second.core) (front : first.front = second.front)
    (channel : Channel) : first.chain channel = second.chain channel :=
  Alike.chain_eq ⟨front, first.model.seed, first.model.maxRead,
    (congrArg Core.model core).symm⟩ channel

variable [NoiseSource ν α]

theorem receiveAll_congr (core : first.core = second.core) (front : first.front = second.front)
    (count : Nat) (channels : List Channel) (noise : ν) :
    first.receiveAll count channels noise = second.receiveAll count channels noise := by
  have model : first.model = second.model := congrArg Core.model core
  have clock : first.sampleClock = second.sampleClock := congrArg Core.sampleClock core
  induction channels generalizing noise with
  | nil => rfl
  | cons channel rest ih =>
      unfold receiveAll
      rw [chain_congr core front channel, model, clock]
      simp only [ih]

/-- Devices alike in all that a read depends on. -/
structure Armed (first second : Simulator ν α) : Prop where
  core : first.core = second.core
  front : first.front = second.front
  burst : first.burst = second.burst

/-- Devices alike in all that a read depends on deliver the same and stay alike. -/
theorem Armed.read (armed : Armed first second) (stream : List Channel) (rooms : List Nat)
    (wait wait' : Duration) :
    (Simulator.read stream rooms wait first).1 = (Simulator.read stream rooms wait' second).1 ∧
      Armed (Simulator.read stream rooms wait first).2
        (Simulator.read stream rooms wait' second).2 := by
  obtain ⟨core, front, burst⟩ := armed
  have operation : first.failOperation = second.failOperation := congrArg Core.failOperation core
  have stalled : first.stalled = second.stalled := congrArg Core.stalled core
  have limit : first.failReadsAfter = second.failReadsAfter := congrArg Core.failReadsAfter core
  have reads : first.reads = second.reads := congrArg Core.reads core
  have noise : first.noise = second.noise := congrArg Core.noise core
  have model : first.model = second.model := congrArg Core.model core
  have clock : first.sampleClock = second.sampleClock := congrArg Core.sampleClock core
  have count : first.deliverable rooms = second.deliverable rooms := by
    unfold deliverable
    rw [burst, model]
  unfold Simulator.read
  rw [stalled, limit, reads, burst, count, noise]
  simp only [receiveAll_congr core front]
  split_ifs
  · exact ⟨rfl, core, front, burst⟩
  · exact ⟨rfl, core, front, burst⟩
  · exact ⟨rfl, core, front, burst⟩
  · exact ⟨rfl, core, front, burst⟩
  · refine ⟨rfl, ?_, front, rfl⟩
    simp only [Simulator.core, model, clock, operation]

end Reads

end Simulator

end LoopbackCalibration
