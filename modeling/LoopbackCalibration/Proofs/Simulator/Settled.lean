import LoopbackCalibration.Proofs.Calibration.Settled
import LoopbackCalibration.Proofs.Simulator.Residue

/-! # What a run leaves set on the simulated transceiver

A simulated transceiver keeps what was last set of every target (`Simulator.current_carryOut`).
After a run that gives an outcome it therefore stands as the outcome says
(`Calibration.run_leaves_reported`).
-/

namespace LoopbackCalibration

open Action

variable {ν α ε β : Type}

/-- The command that would set a quantity of a path to what it stands at. -/
def PathState.current (path : PathState α) (direction : Direction) (channel : Channel) :
    Quantity → Option (Command α)
  | .frequency stage => (path.frequency? stage).map (.frequency direction channel stage)
  | .gain stage => (path.gains stage).map (.gain direction channel stage)
  | .antenna => path.antenna.map (.antenna direction channel)
  | .dcOffset => some (.dcOffset direction channel path.dcOffset)
  | .iqBalance => some (.iqBalance direction channel path.iqBalance)
  | .dcOffsetMode => path.dcAutomatic.map (.dcOffsetMode direction channel)
  | .sampleRate => some (.sampleRate direction channel path.sampleRate)

namespace Simulator

/-- The last setting written under a key. -/
def written? (device : Simulator ν α) (key : String) : Option (String × String) :=
  device.settings.toList.reverse.find? fun setting => setting.1 = key

/-- The command that would set a target to what it stands at. -/
def current (device : Simulator ν α) : Target → Option (Command α)
  | .path direction channel quantity =>
    (device.path direction channel).current direction channel quantity
  | .masterClockRate => some (.masterClockRate device.clockRate)
  | .setting key => (device.written? key).map fun (key, value) => .setting key value

/-- The device stands at what the command sets. -/
def Shows (command : Command α) (device : Simulator ν α) : Prop :=
  device.current command.target = some command

section Shown

variable {device : Simulator ν α} {direction : Direction} {channel : Channel}

theorem shows_frequency {stage : FrequencyStage} {hertz : α} :
    Shows (.frequency direction channel stage hertz) device ↔
      (device.path direction channel).frequency? stage = some hertz := by
  simp [Shows, Command.target, current, PathState.current]

theorem shows_gain {stage : GainStage} {decibels : α} :
    Shows (.gain direction channel stage decibels) device ↔
      (device.path direction channel).gains stage = some decibels := by
  simp [Shows, Command.target, current, PathState.current]

theorem shows_iqBalance {balance : Phasor α} :
    Shows (.iqBalance direction channel balance) device ↔
      (device.path direction channel).iqBalance = balance := by
  simp [Shows, Command.target, current, PathState.current]

theorem shows_dcOffset {offset : Phasor α} :
    Shows (.dcOffset direction channel offset) device ↔
      (device.path direction channel).dcOffset = offset := by
  simp [Shows, Command.target, current, PathState.current]

end Shown

theorem path_changePath (device : Simulator ν α) (direction other : Direction)
    (channel channel' : Channel) (change : PathState α → PathState α) :
    (device.changePath direction channel change).path other channel' =
      if other = direction ∧ channel' = channel then change (device.path other channel')
      else device.path other channel' := by
  cases direction <;> cases other <;> cases channel <;> cases channel' <;> rfl

/-- A change of one quantity of one path. -/
theorem current_changePath {command : Command α} {direction : Direction} {channel : Channel}
    {quantity : Quantity} {change : PathState α → PathState α}
    (targets : command.target = .path direction channel quantity)
    (changes : ∀ path other, (change path).current direction channel other =
      if other = quantity then some command else path.current direction channel other)
    (device : Simulator ν α) (target : Target) :
    (device.changePath direction channel change).current target =
      if target = command.target then some command else device.current target := by
  rw [targets]
  cases target with
  | path direction' channel' other =>
      simp only [current, path_changePath, Target.path.injEq]
      by_cases same : direction' = direction ∧ channel' = channel
      · obtain ⟨rfl, rfl⟩ := same
        simp only [changes, true_and, and_self, if_true]
      · rw [if_neg same, if_neg fun ⟨first, second, _⟩ => same ⟨first, second⟩]
  | masterClockRate => cases direction <;> rfl
  | setting key => cases direction <;> rfl

section Commands

variable [Arithmetic α] [Numeral α]

omit [Arithmetic α] [Numeral α] in
/-- One more setting, whatever it acts on besides. -/
private theorem current_push (device after : Simulator ν α) {key value : String}
    (rx : after.rx = device.rx) (tx : after.tx = device.tx)
    (clockRate : after.clockRate = device.clockRate)
    (settings : after.settings = device.settings.push (key, value)) (target : Target) :
    after.current target =
      if target = .setting key then some (.setting key value) else device.current target := by
  cases target with
  | path direction channel quantity =>
      have paths : after.path direction channel = device.path direction channel := by
        cases direction
        · exact congrArg (fun paths => paths.get channel) rx
        · exact congrArg (fun paths => paths.get channel) tx
      rw [if_neg (by simp), current, paths, current]
  | masterClockRate => rw [if_neg (by simp), current, clockRate, current]
  | setting other =>
      simp only [current, written?, settings, Array.toList_push, List.reverse_append,
        List.reverse_singleton, List.singleton_append, List.find?_cons, Target.setting.injEq]
      by_cases same : key = other
      · subst same
        simp
      · simp [same, Ne.symm same]

omit [Arithmetic α] [Numeral α] in
theorem current_writeSetting {key value : String} {device : Simulator ν α}
    (success : (writeSetting key value device).1 = .ok ()) (target : Target) :
    (writeSetting key value device).2.current target =
      if target = .setting key then some (.setting key value) else device.current target := by
  by_cases active : key = "ACTIVE_CHANNEL"
  · simp only [writeSetting, if_pos active] at success ⊢
    cases named : Channel.ofLetter? value <;> simp only [named] at success ⊢
    · cases success
    · refine current_push device _ ?_ ?_ ?_ ?_ target <;> rfl
  · simp only [writeSetting, if_neg active]
    by_cases toggles : key = "ENABLE_TXTSP_CONST"
    · rw [if_pos toggles]
      refine current_push device _ ?_ ?_ ?_ ?_ target <;> rfl
    · rw [if_neg toggles]
      refine current_push device _ ?_ ?_ ?_ ?_ target <;> rfl

/-- **Last write.** A command that is carried out sets its target and nothing else. -/
theorem current_carryOut {command : Command α} {device : Simulator ν α}
    (success : (carryOut command device).1 = .ok ()) (target : Target) :
    (carryOut command device).2.current target =
      if target = command.target then some command else device.current target := by
  cases command with
  | frequency direction channel stage hertz =>
      refine current_changePath rfl (fun path other => ?_) device target
      cases stage <;> cases other with
      | frequency stage => cases stage <;> rfl
      | _ => rfl
  | gain direction channel stage decibels =>
      refine current_changePath rfl (fun path other => ?_) device target
      cases other with
      | gain element =>
          simp only [PathState.current, PathState.amplify, Quantity.gain.injEq]
          by_cases same : element = stage
          · subst same
            simp
          · simp [same]
      | _ => rfl
  | antenna | dcOffset | dcOffsetMode =>
      exact current_changePath rfl (fun path other => by cases other <;> rfl) device target
  | iqBalance direction channel balance =>
      have changes : ∀ (path : PathState α) other,
          ({ path with iqBalance := balance }).current direction channel other =
            if other = .iqBalance then some (.iqBalance direction channel balance)
            else path.current direction channel other :=
        fun path other => by cases other <;> rfl
      -- the count of these writes is no target
      exact current_changePath rfl changes device target
  | masterClockRate hertz => cases target <;> rfl
  | sampleRate direction channel hertz =>
      by_cases refused : hertz ≤ 0
      · simp [carryOut, writeSampleRate, refused] at success
      · simp only [carryOut, writeSampleRate, if_neg refused]
        exact current_changePath rfl (fun path other => by cases other <;> rfl) device target
  | setting key value => exact current_writeSetting success target

theorem ensures_command {command : Command α} {before after : Simulator ν α → Prop}
    (carries : ∀ device, before device → (carryOut command device).1 = .ok () →
      after (carryOut command device).2) :
    Ensures before (Simulator.command command) (fun _ => after) fun _ _ => True := by
  intro device holds
  unfold Simulator.command unlessFailing
  split_ifs
  · exact trivial
  · have carried := carries device holds
    rcases outcome : carryOut command device with ⟨_ | _, carriedOut⟩ <;> rw [outcome] at carried
    · exact trivial
    · exact carried rfl

theorem ensures_sets (command : Command α) :
    Ensures (fun _ : Simulator ν α => True) (Simulator.command command)
      (fun _ => Shows command) fun _ _ => True :=
  ensures_command fun device _ success => by
    rw [Shows, current_carryOut success, if_pos rfl]

theorem ensures_keeps {command kept : Command α} (apart : command.target ≠ kept.target) :
    Ensures (Shows (ν := ν) kept) (Simulator.command command) (fun _ => Shows kept)
      fun _ _ => True :=
  ensures_command fun device shown success => by
    rw [Shows, current_carryOut success, if_neg apart.symm, shown]

end Commands

/-- An operation that sets nothing. -/
private theorem ensures_unlessFailing [Arithmetic α] {operation : String}
    {action : Action (Simulator ν α) DeviceError β} {kept : Command α}
    (keeps : ∀ device, (action device).2.current = device.current) :
    Ensures (Shows kept) (unlessFailing operation action) (fun _ => Shows kept)
      fun _ _ => True := by
  intro device shown
  unfold unlessFailing
  split_ifs
  · exact trivial
  · have same := keeps device
    rcases outcome : action device with ⟨_ | _, after⟩ <;> rw [outcome] at same
    · exact trivial
    · exact (congrFun same kept.target).trans shown

theorem ensures_openStream [Arithmetic α] (channels : List Channel) (kept : Command α) :
    Ensures (Shows (ν := ν) kept) (openStream channels) (fun _ => Shows kept) fun _ _ => True :=
  ensures_unlessFailing fun _ => rfl

theorem ensures_activate [Arithmetic α] (stream : List Channel) (count : Nat)
    (kept : Command α) :
    Ensures (Shows (ν := ν) kept) (activate stream count) (fun _ => Shows kept)
      fun _ _ => True :=
  ensures_unlessFailing fun _ => rfl

section Rigs

variable [Scalar α] [NoiseSource ν α]

theorem ensures_read (stream : List Channel) (rooms : List Nat) (wait : Duration)
    (kept : Command α) :
    Ensures (Shows (ν := ν) kept) (read stream rooms wait) (fun _ => Shows kept)
      fun _ => Shows kept := by
  intro device shown
  unfold read
  split_ifs <;> exact shown

variable [Numeral α]

/-- A simulated transceiver retains what is set on it. -/
theorem retains_timed (clock : Clock) (stops : Nat → Bool) :
    (timed (ν := ν) (α := α) clock stops).Retains fun command world =>
      Shows command world.device where
  sets command := Timed.ensures_onDevice (ensures_sets command)
  keeps _ _ apart := Timed.ensures_onDevice (ensures_keeps apart)
  openStream channels kept := Timed.ensures_onDevice (ensures_openStream channels kept)
  activate stream count kept := Timed.ensures_onDevice (ensures_activate stream count kept)
  read stream rooms wait kept := Timed.ensures_onDevice (ensures_read stream rooms wait kept)
  closeStream _ _ := fun _ shown => shown
  now _ _ shown := shown
  note _ _ _ shown := shown

end Rigs

/-- The device stands as an outcome says of a run at a frequency. One oscillator serves both
channels of a direction. It is tuned through the first channel. -/
structure Reflects [Arithmetic α] (config : Config α) (frequency : α) (outcome : Outcome α)
    (device : Simulator ν α) : Prop where
  rxIq : ∀ channel,
    (device.path .rx channel).iqBalance = outcome.rxIq.correction.get channel
  txIq : ∀ channel,
    (device.path .tx channel).iqBalance = outcome.txIq.correction.get channel
  txDc : ∀ channel,
    (device.path .tx channel).dcOffset = outcome.txDc.correction.get channel
  rxGain : ∀ channel,
    (device.path .rx channel).gains .pga = some (outcome.rxPgaGain.get channel)
  rxOscillator : (device.path .rx .a).rf = some frequency
  txOscillator : (device.path .tx .a).rf = some (frequency + config.txDelta)
  rxBaseband : ∀ channel, (device.path .rx channel).baseband = some 0
  txBaseband : ∀ channel,
    (device.path .tx channel).baseband = some (config.txCordic.get channel)

theorem reflects_of_shows [Arithmetic α] {config : Config α} {frequency : α}
    {outcome : Outcome α} {device : Simulator ν α}
    (shows : ∀ command ∈ config.reported frequency outcome, Shows command device) :
    device.Reflects config frequency outcome := by
  simp only [Config.reported, Config.received, Config.adjusted, Config.tuned, Config.receiveGain,
    Config.separation, writeCorrections, Command.correction, List.forall_mem_append,
    List.forall_mem_map, List.forall_mem_cons, Channel.mem_all, true_imp_iff, shows_frequency,
    shows_gain, shows_iqBalance, shows_dcOffset] at shows
  obtain ⟨⟨⟨⟨⟨⟨⟨rxOscillator, txOscillator, -⟩, rxBaseband⟩, rxGain⟩, rxIq⟩, txBaseband⟩, txIq⟩,
    txDc⟩ := shows
  exact ⟨rxIq, txIq, txDc, rxGain, rxOscillator, txOscillator, rxBaseband, txBaseband⟩

end Simulator

namespace Calibration

variable [Scalar α] [Numeral α] [NoiseSource ν α]

/-- **The device stands as the outcome says.** After a run that gives an outcome a simulated
transceiver holds the corrections and gains of the outcome, is tuned as the configuration
wants, and has the receive offsets that it had before. -/
theorem run_leaves_reported {config : Config α} {frequency : α} {clock : Clock}
    {stops : Nat → Bool} {progress after : Progress (Timed (Simulator ν α))} {outcome : Outcome α}
    (succeeds : run (Simulator.timed clock stops) config frequency progress =
      (.ok outcome, after)) :
    after.world.device.Reflects config frequency outcome ∧ ∀ channel,
      (after.world.device.path .rx channel).dcOffset =
        (progress.world.device.path .rx channel).dcOffset := by
  obtain ⟨offsets, stands⟩ : ∃ offsets : PerChannel (Phasor α), ∀ channel,
      (progress.world.device.path .rx channel).dcOffset = offsets.get channel :=
    ⟨progress.world.device.rx.map PathState.dcOffset, fun channel => (PerChannel.get_map ..).symm⟩
  have start : Held (fun command world => Simulator.Shows command world.device)
      (beside offsets []) progress := by
    intro command member
    rw [beside, List.append_nil] at member
    obtain ⟨channel, -, rfl⟩ := List.mem_map.mp member
    exact Simulator.shows_dcOffset.mpr (stands channel)
  have shows : Holding (fun command world => Simulator.Shows command world.device)
      (beside offsets (config.reported frequency outcome)) after.world :=
    (settles_run (Simulator.retains_timed clock stops) config frequency offsets).of_ok start
      succeeds
  refine ⟨Simulator.reflects_of_shows fun command member =>
    shows command (List.mem_append_right _ member), fun channel => ?_⟩
  have offset := shows (.dcOffset .rx channel (offsets.get channel))
    (List.mem_append_left _ (List.mem_map_of_mem (Channel.mem_all channel)))
  rw [Simulator.shows_dcOffset.mp offset, stands channel]

/-- A run on a device that others have used. -/
theorem run_leaves_reported_used : ∃ outcome after,
    run (Simulator.timed (.resting 1000) fun _ => false) quick 1000000000 ⟨.initial, used, 0⟩ =
        (.ok outcome, after) ∧
      after.world.device.Reflects quick 1000000000 outcome ∧ ∀ channel,
        (after.world.device.path .rx channel).dcOffset = .one := by
  have succeeds : (run (Simulator.timed (.resting 1000) fun _ => false) quick 1000000000
      ⟨.initial, used, 0⟩).1.isOk := by
    decide +kernel
  rcases result : run (Simulator.timed (.resting 1000) fun _ => false) quick 1000000000
    ⟨.initial, used, 0⟩ with ⟨_ | outcome, after⟩
  · rw [result] at succeeds
    cases succeeds
  · obtain ⟨reflects, offsets⟩ := run_leaves_reported result
    refine ⟨outcome, after, rfl, reflects, fun channel => (offsets channel).trans ?_⟩
    cases channel <;> rfl

end Calibration

end LoopbackCalibration
