import LoopbackCalibration.Proofs.Acquisition.Chunks
import LoopbackCalibration.Proofs.Calibration.Rules
import LoopbackCalibration.Proofs.Calibration.Work
import LoopbackCalibration.Proofs.Scalar.Binary64
import LoopbackCalibration.Proofs.Simulator.Residue

/-! # The work of a run on the simulated transceiver

A simulated transceiver that nothing keeps from working calibrates, unless the clock passes a
deadline. Its counters then tell exactly the captures and corrections that the outcome counts
(`Calibration.run_work`).
-/

namespace LoopbackCalibration

open Action

variable {ν α : Type}

/-- The device takes the command. -/
def Command.accepted [Arithmetic α] : Command α → Prop
  | .sampleRate _ _ hertz => ¬hertz ≤ 0
  | .setting key value => key = "ACTIVE_CHANNEL" → (Channel.ofLetter? value).isSome
  | _ => True

theorem Command.accepted_of_refusable [Arithmetic α] {command : Command α}
    (unrefused : command.refusable = false) : command.accepted := by
  cases command with
  | sampleRate | setting => cases unrefused
  | _ => exact trivial

theorem Config.accepted_setup [Arithmetic α] {config : Config α}
    (positive : ¬config.sampleRate ≤ 0) : ∀ command ∈ config.setup, command.accepted := by
  have fronts : ∀ channel, ∀ command ∈ config.channelSetup channel, command.accepted := by
    intro channel
    simp [channelSetup, txGainPlan, rxGainPlan, Command.accepted, positive]
  have tones : ∀ channel, ∀ command ∈ toneSetup (α := α) channel, command.accepted := by
    intro channel
    simp [toneSetup, Command.accepted, Channel.ofLetter?_letter]
  simp only [setup, List.forall_mem_append, List.forall_mem_map, List.forall_mem_singleton,
    List.forall_mem_flatMap]
  exact ⟨⟨⟨fun _ _ => trivial, trivial⟩, fun channel _ => fronts channel⟩,
    fun channel _ => tones channel⟩

/-- What a device counts. -/
structure Counters where
  reads : Nat
  iqWrites : Nat
  sampleClock : Nat
  opened : Nat
  closed : Nat

namespace Counters

/-- The counters after some work, when a read brings no more samples than a limit. -/
def after (counters : Counters) (config : Config α) (limit : Nat) (work : Work) : Counters :=
  { counters with
    reads := counters.reads + work.captures * (config.samplesPerCapture ⌈/⌉ limit)
    iqWrites := counters.iqWrites + work.balances
    sampleClock := counters.sampleClock + work.captures * config.samplesPerCapture }

variable (counters : Counters) (config : Config α) (limit : Nat) (work : Work)

theorem after_write (command : Command α) :
    counters.after config limit (work.write [command]) =
      { counters.after config limit work with
        iqWrites := (counters.after config limit work).iqWrites + command.balances.toNat } := by
  cases command <;> rfl

theorem after_capture :
    counters.after config limit work.capture =
      { counters.after config limit work with
        reads := (counters.after config limit work).reads + config.samplesPerCapture ⌈/⌉ limit
        sampleClock :=
          (counters.after config limit work).sampleClock + config.samplesPerCapture } := by
  simp only [after, Work.capture, Nat.add_mul, Nat.one_mul, Nat.add_assoc]

end Counters

namespace Simulator

/-- The device was not told to fail. -/
structure Sound (device : Simulator ν α) : Prop where
  unlimited : device.failReadsAfter = none
  running : device.stalled = false
  obedient : device.failOperation = none

/-- What the device has counted. -/
def counters (device : Simulator ν α) : Counters :=
  ⟨device.reads, device.iqWrites, device.sampleClock, device.opened, device.closed⟩

/-- A sound device of a model with some counts. -/
structure Stands (model : LoopbackModel α) (counters : Counters) (device : Simulator ν α) :
    Prop where
  model_eq : device.model = model
  sound : device.Sound
  counters_eq : device.counters = counters

section Commands

variable [Arithmetic α] [Numeral α]

theorem carryOut_of_accepted {command : Command α} (accepted : command.accepted)
    (device : Simulator ν α) : (carryOut command device).1 = .ok () := by
  cases command with
  | sampleRate => simp only [carryOut, writeSampleRate, if_neg accepted]
  | setting key value =>
      simp only [carryOut, writeSetting]
      split_ifs with active
      · obtain ⟨channel, named⟩ := Option.isSome_iff_exists.mp (accepted active)
        rw [named]
      · rfl
      · rfl
  | _ => rfl

/-- Of what a device counts a command counts only as an IQ balance. -/
theorem counters_carryOut (command : Command α) (device : Simulator ν α) :
    (carryOut command device).2.counters =
      { device.counters with iqWrites := device.iqWrites + command.balances.toNat } := by
  cases command with
  | sampleRate direction =>
      simp only [carryOut, writeSampleRate]
      split_ifs
      · rfl
      · cases direction <;> rfl
  | setting key value =>
      simp only [carryOut, writeSetting]
      split_ifs
      · cases Channel.ofLetter? value <;> rfl
      · rfl
      · rfl
  | masterClockRate => rfl
  | frequency direction | gain direction | antenna direction | dcOffset direction
  | iqBalance direction | dcOffsetMode direction =>
      cases direction <;> rfl

theorem stands_command (model : LoopbackModel α) (counters : Counters) {command : Command α}
    (accepted : command.accepted) :
    Ensures (Stands (ν := ν) model counters) (Simulator.command command)
      (fun _ => Stands model
        { counters with iqWrites := counters.iqWrites + command.balances.toNat })
      fun _ _ => False := by
  rintro device ⟨rfl, sound, rfl⟩
  unfold Simulator.command unlessFailing
  rw [if_neg (by simp [sound.obedient])]
  have done := carryOut_of_accepted accepted device
  have core := core_carryOut command device
  have counted := counters_carryOut command device
  rcases outcome : carryOut command device with ⟨_ | _, after⟩ <;>
    rw [outcome] at done core counted
  · cases done
  · exact ⟨congrArg Core.model core, ⟨(congrArg Core.failReadsAfter core).trans sound.unlimited,
      (congrArg Core.stalled core).trans sound.running,
      (congrArg Core.failOperation core).trans sound.obedient⟩, counted⟩

end Commands

section Rigs

variable [Scalar α] [NoiseSource ν α]

/-- A read of a sound device brings all that is left of the burst, as far as one read goes. -/
theorem read_of_sound {device : Simulator ν α} (sound : device.Sound) {stream : List Channel}
    (both : stream.length = 2) (some : 0 < device.burst) (wait : Duration) :
    ∃ buffers noise, read stream [device.burst, device.burst] wait device =
      (.ok ⟨min device.model.maxRead device.burst, buffers⟩, { device with
        noise := noise
        sampleClock := device.sampleClock + min device.model.maxRead device.burst
        burst := device.burst - min device.model.maxRead device.burst
        reads := device.reads + 1 }) := by
  have count : device.deliverable [device.burst, device.burst] =
      min device.model.maxRead device.burst := by
    simp only [deliverable, List.min?_cons', List.foldl_cons, List.foldl_nil, Option.getD_some]
    omega
  unfold read
  simp only [sound.running, sound.unlimited, both, count, Nat.pos_iff_ne_zero.mp some,
    List.length_cons, List.length_nil, Option.any_none, Bool.false_eq_true, if_false, ne_eq,
    not_true_eq_false]
  exact ⟨_, _, rfl⟩

/-- So many samples are left of a burst that was started at some counts. -/
structure Bursting (model : LoopbackModel α) (counters : Counters) (requested : Nat)
    (burst reads looks : Nat) (world : Timed (Simulator ν α)) : Prop where
  looks_eq : world.looks = looks
  burst_eq : world.device.burst = burst
  within : burst ≤ requested
  stands : world.device.Stands model
    { counters with reads, sampleClock := counters.sampleClock + (requested - burst) }

variable [Numeral α] {stream : List Channel}

theorem chunks_timed (model : LoopbackModel α) (counters : Counters) (clock : Clock)
    (both : stream.length = 2) (requested : Nat) :
    (timed (ν := ν) clock fun _ => false).Chunks stream model.maxRead clock
      (Bursting model counters requested) where
  read burst reads looks wait some world := by
    rintro ⟨rfl, rfl, within, rfl, sound, counted⟩
    obtain ⟨buffers, noise, brings⟩ := read_of_sound sound both some wait
    have read : (timed clock fun _ => false).read stream
        [world.device.burst, world.device.burst] wait world =
          ((Simulator.read stream [world.device.burst, world.device.burst] wait world.device).1,
            { world with
              device := (Simulator.read stream [world.device.burst, world.device.burst] wait
                world.device).2 }) := rfl
    rw [read, brings]
    refine ⟨by simp, rfl, rfl, by omega, rfl, ⟨sound.1, sound.2, sound.3⟩, ?_⟩
    simp only [Simulator.counters, Counters.mk.injEq] at counted ⊢
    omega
  now burst reads looks world := by
    rintro ⟨rfl, rfl, within, stands⟩
    exact ⟨rfl, rfl, rfl, within, stands⟩
  stopRequested _ _ _ _ _ := rfl

theorem activates_timed (model : LoopbackModel α) (counters : Counters) (clock : Clock)
    (stream : List Channel) (requested looks : Nat) :
    Ensures (fun world => world.looks = looks ∧ world.device.Stands (ν := ν) model counters)
      ((timed clock fun _ => false).activate stream requested)
      (fun _ => Bursting model counters requested requested counters.reads looks)
      fun _ _ => False := by
  rintro world ⟨rfl, rfl, sound, rfl⟩
  have started : Simulator.activate stream requested world.device =
      (.ok (), { world.device with burst := requested }) :=
    if_neg (by simp [sound.obedient])
  have activates : (timed clock fun _ => false).activate stream requested world =
      ((Simulator.activate stream requested world.device).1,
        { world with device := (Simulator.activate stream requested world.device).2 }) := rfl
  rw [activates, started]
  exact ⟨rfl, rfl, Nat.le_refl _, rfl, ⟨sound.1, sound.2, sound.3⟩,
    by simp only [Simulator.counters, Nat.sub_self, Nat.add_zero]⟩

end Rigs

end Simulator

namespace Calibration

section Work

variable [Scalar α] [Numeral α] [NoiseSource ν α] {model : LoopbackModel α} {base : Counters}
  {config : Config α} {clock : Clock} {start : Nat}

/-- The device has done some work since it stood at some counts, and since the clock had been
looked at so often. -/
structure Done (model : LoopbackModel α) (base : Counters) (config : Config α) (start : Nat)
    (work : Work) (world : Timed (Simulator ν α)) : Prop where
  since : start ≤ world.looks
  stands : world.device.Stands model (base.after config model.maxRead work)

/-- A run stops after a look at which the deadline of a capture was set: the deadline elapses,
or the clock cannot show it. -/
def Late (model : LoopbackModel α) (config : Config α) (clock : Clock) (start : Nat)
    (halt : Halt CalibrationError) (world : Timed (Simulator ν α)) : Prop :=
  ∃ look, start ≤ look ∧ look < world.looks ∧
    halt.Misses CalibrationError.Expired clock config.acquisitionTimeout
      (config.samplesPerCapture ⌈/⌉ model.maxRead) look

omit [Scalar α] [Numeral α] [NoiseSource ν α] in
variable (start) in
/-- An action on the device leaves the clock alone. -/
private theorem ensures_onDevice_since {ε β : Type} {action : Action (Simulator ν α) ε β}
    {before : Simulator ν α → Prop} {success : β → Simulator ν α → Prop}
    {failure : ε → Simulator ν α → Prop} (ensures : Ensures before action success failure) :
    Ensures (fun world : Timed (Simulator ν α) => start ≤ world.looks ∧ before world.device)
      (Timed.onDevice action)
      (fun value world => start ≤ world.looks ∧ success value world.device)
      fun cause world => start ≤ world.looks ∧ failure cause world.device :=
  ensures.onPart_and (fun world : Timed _ => start ≤ world.looks) (fun _ _ => rfl)
    fun _ _ => id

private theorem works_issueDuring_timed (stage : Stage) (commands : List (Command α))
    (accepted : ∀ command ∈ commands, command.accepted) (work : Work) :
    Works (Done model base config start) (Late model config clock start) work
      (issueDuring (Simulator.timed (ν := ν) clock fun _ => false) stage commands)
      (work.write commands) := by
  induction commands generalizing work with
  | nil => exact works_pure () work
  | cons command rest ih =>
      have stands := ensures_onDevice_since start (Simulator.stands_command (ν := ν) model
        (base.after config model.maxRead work) (accepted command List.mem_cons_self))
      have sets : Works (Done model base config start) (Late model config clock start) work
          (Action.mapError (fun cause => .error (.configuration stage cause))
            ((Progress.rig (Simulator.timed (ν := ν) clock fun _ => false)).command command))
          (work.write [command]) := by
        refine Ensures.mapError ((Progress.ensures_onWorld stands).weaken
          (fun _ done => ⟨done.since, done.stands⟩) (fun _ _ done => ?_) fun _ _ failed =>
          failed.2.elim)
        exact ⟨done.1, (Counters.after_write ..).symm ▸ done.2⟩
      rw [Work.write_cons]
      exact sets.bind fun _ => ih
        (fun later member => accepted later (List.mem_cons_of_mem _ member)) _

theorem performs_timed (chunk : 0 < model.maxRead)
    (few : config.candidates < 2 ^ (64 : Nat))
    (fits : config.samplesPerCapture ≤ Acquisition.capacity)
    (stream : List Channel) (both : stream.length = 2) :
    Performs (Simulator.timed (ν := ν) clock fun _ => false) config stream
      (Done model base config start) (Late model config clock start) where
  issue commands unrefused work progress :=
    works_issueDuring_timed progress.stage commands
      (fun command member => Command.accepted_of_refusable (unrefused command member)) work
      progress
  capture work := by
    intro progress done
    have captures := capture_of_chunks _ _ (Simulator.chunks_timed model
      (base.after config model.maxRead work) clock both config.samplesPerCapture) chunk
      (Simulator.activates_timed (ν := ν) model (base.after config model.maxRead work) clock stream
        config.samplesPerCapture progress.world.looks) fits
    refine captures.weaken (fun _ => id) ?_ ?_ progress ⟨rfl, done.stands⟩
    · intro block after bursting
      refine ⟨?_, (Counters.after_capture ..).symm ▸ bursting.stands⟩
      have since := done.since
      have looks := bursting.looks_eq
      omega
    · rintro halt after ⟨⟨burst, reads, looks, past, bursting⟩, misses⟩
      exact ⟨_, done.since, bursting.looks_eq.symm ▸ past, misses⟩
  now work world done := ⟨Nat.le_succ_of_le done.since, done.stands⟩
  note trial work world done := done
  overflow many := absurd few (Nat.not_lt.mpr many)

private theorem opens_timed (work : Work) :
    Ensures (Done model base config start work)
      ((Simulator.timed (ν := ν) clock fun _ => false).openStream Channel.all)
      (fun stream world => stream.length = 2 ∧
        Done model { base with opened := base.opened + 1 } config start work world)
      fun cause => Late model config clock start (.error (.configuration .initial cause)) := by
  rintro world ⟨since, rfl, sound, counted⟩
  have opened : Simulator.openStream Channel.all world.device =
      (.ok Channel.all, { world.device with opened := world.device.opened + 1 }) :=
    if_neg (by simp [sound.obedient])
  have opens : (Simulator.timed clock fun _ => false).openStream Channel.all world =
      ((Simulator.openStream Channel.all world.device).1,
        { world with device := (Simulator.openStream Channel.all world.device).2 }) := rfl
  rw [opens, opened]
  refine ⟨rfl, since, rfl, ⟨sound.1, sound.2, sound.3⟩, ?_⟩
  exact congrArg (fun counters : Counters => { counters with opened := counters.opened + 1 })
    counted

private theorem closes_timed (stream : List Channel) (work : Work) :
    Ensures (Done model base config start work)
      ((Simulator.timed (ν := ν) clock fun _ => false).closeStream stream)
      (fun _ => Done model { base with closed := base.closed + 1 } config start work)
      fun cause => Late model config clock start (.error (.configuration .done cause)) := by
  rintro world ⟨since, rfl, sound, counted⟩
  refine ⟨since, rfl, ⟨sound.1, sound.2, sound.3⟩, ?_⟩
  exact congrArg (fun counters : Counters => { counters with closed := counters.closed + 1 })
    counted

variable (clock) in
private theorem done_run (chunk : 0 < model.maxRead) (few : config.candidates < 2 ^ (64 : Nat))
    (fits : config.samplesPerCapture ≤ Acquisition.capacity)
    (positive : ¬config.sampleRate ≤ 0) (frequency : α) :
    Ensures (fun progress => Done model base config start ⟨0, 0⟩ progress.world)
      (run (Simulator.timed (ν := ν) clock fun _ => false) config frequency)
      (fun outcome progress => (outcome.candidates = config.candidates ∧
          outcome.candidates < 2 ^ (64 : Nat)) ∧
        Done model { base with opened := base.opened + 1, closed := base.closed + 1 } config
          start (Work.calibrate ⟨0, 0⟩ config) progress.world)
      fun halt progress => Late model config clock start halt progress.world :=
  works_run (fun stream => stream.length = 2) frequency ⟨0, 0⟩
    (fun stream both => performs_timed chunk few fits stream both)
    (works_issueDuring_timed .initial config.setup (Config.accepted_setup positive) ⟨0, 0⟩)
    (opens_timed ⟨0, 0⟩) closes_timed fun _ _ _ => id

end Work

/-- **The work of a run is what the outcome counts.** A run with a valid configuration on a
sound device stops only because of a deadline that was set during it: a look of the capture
shows that instant or a later one, or no look can. Otherwise it gives an outcome, takes five
captures and one more for each candidate, and the device has counted just the reads, corrections
and samples that these take, and one stream. -/
theorem run_work [NoiseSource ν Float] {config : Config Float} (valid : config.isValid)
    (progress : Progress (Timed (Simulator ν Float)))
    (chunk : 1 ≤ progress.world.device.model.maxRead) (sound : progress.world.device.Sound)
    (clock : Clock) (few : config.candidates < 2 ^ (64 : Nat))
    (fits : config.samplesPerCapture ≤ Acquisition.capacity) (frequency : Float) :
    let rig := Simulator.timed clock fun _ => false
    let device := progress.world.device
    let reads := config.samplesPerCapture ⌈/⌉ device.model.maxRead
    (∃ halt after look, run rig config frequency progress = (.error halt, after) ∧
      progress.world.looks ≤ look ∧ look < after.world.looks ∧
      halt.Misses CalibrationError.Expired clock config.acquisitionTimeout reads look) ∨
    ∃ outcome after, run rig config frequency progress = (.ok outcome, after) ∧
      outcome.candidates = 2 * config.searchDepths.size * config.stepsPerIter ^ 2 ∧
      ((ledger rig config frequency progress).map Entry.event).filterMap Event.burst? =
        List.replicate (5 + outcome.candidates) config.samplesPerCapture ∧
      after.world.device.counters =
        { reads := device.reads + (5 + outcome.candidates) * reads
          iqWrites := device.iqWrites + (8 + 2 * outcome.candidates)
          sampleClock := device.sampleClock + (5 + outcome.candidates) * config.samplesPerCapture
          opened := device.opened + 1
          closed := device.closed + 1 } := by
  intro rig device reads
  have positive : ¬config.sampleRate ≤ 0 :=
    Binary64.not_nonpositive (Config.isValid_iff_obeys.mp valid).sampleRate
  have start : Done device.model device.counters config progress.world.looks ⟨0, 0⟩
      progress.world :=
    ⟨Nat.le_refl _, rfl, sound, by simp [Counters.after, device]⟩
  have reached := done_run clock chunk few fits positive frequency progress start
  rcases result : run rig config frequency progress with ⟨halt | outcome, after⟩ <;>
    rw [result] at reached
  · obtain ⟨look, since, during, misses⟩ := reached
    exact .inl ⟨halt, after, look, rfl, since, during, misses⟩
  · obtain ⟨⟨candidates, -⟩, -, -, -, counted⟩ := reached
    obtain ⟨-, bursts, -⟩ := tallied_ledger rig result
    refine .inr ⟨outcome, after, rfl, ?_, ?_, ?_⟩
    · rw [candidates, Nat.pow_two]
      rfl
    · rw [bursts, candidates]
      simp [Work.calibrate]
    · rw [counted, candidates]
      simp [Counters.after, Work.calibrate, Simulator.counters, device, reads]

/-- Thirteen captures in two chunks each. -/
theorem run_work_fresh : quick.isValid ∧ ∃ outcome after,
    run (Simulator.timed (.resting 1000) fun _ => false) quick 1000000000 ⟨.initial, fresh, 0⟩ =
        (.ok outcome, after) ∧
      outcome.candidates = 8 ∧ after.world.device.counters = ⟨26, 24, 52, 1, 1⟩ := by
  have valid : quick.isValid := by decide +kernel
  have work := run_work valid ⟨.initial, fresh, 0⟩ (by decide) ⟨rfl, rfl, rfl⟩ (.resting 1000)
    (by decide) (by decide) 1000000000
  rcases work with ⟨halt, after, look, stops, -⟩ | ⟨outcome, after, result, candidates, -, counted⟩
  · have succeeds : (run (Simulator.timed (.resting 1000) fun _ => false) quick 1000000000
        ⟨.initial, fresh, 0⟩).1.isOk := by
      decide +kernel
    rw [stops] at succeeds
    cases succeeds
  · have eight : outcome.candidates = 8 := candidates
    rw [eight] at counted
    exact ⟨valid, outcome, after, result, eight, counted⟩

end Calibration

end LoopbackCalibration
