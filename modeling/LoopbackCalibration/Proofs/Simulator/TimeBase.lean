import LoopbackCalibration.Proofs.Calibration.Keeping
import LoopbackCalibration.Proofs.Simulator.Accounts
import LoopbackCalibration.Proofs.Simulator.Settled

/-! # The time base of the simulated transceiver

A read takes the time of a sample from the rate of its path. Whatever was done to a simulated
transceiver, it stands at what was last set (`Simulator.current_performAll`), so a path has the
rate that it last took or the one that it was made with. A device takes no rate of zero or less,
but it takes one that is not a number (`Command.accepted_sampleRate_iff`). A rate is therefore
positive exactly when the one last set is a number (`Simulator.rate_positive_iff`). The rules of
a configuration ask for positive rates, so a run keeps all rates positive
(`Calibration.steady_run`).
-/

namespace LoopbackCalibration

open Action Arithmetic

variable {ν α : Type}

namespace Binary64

/-- A quotient by what is not a number is not one. -/
theorem isNumber_div_eq_false (value : Float) {divisor : Float} (void : ¬isNumber divisor) :
    isNumber (value / divisor) = false := by
  have unpacked : divisor.toModel.unpack = .notANumber := by
    cases kind : divisor.toModel.unpack with
    | notANumber => rfl
    | infinity | zero | finite =>
        exact absurd (isNumber_iff.mpr (congrArg Float.Model.UnpackedFloat.isNaN kind)) void
  have quotient : Float.Model.UnpackedFloat.div .binary64 value.toModel.unpack
      divisor.toModel.unpack = .notANumber := by
    rw [unpacked]
    cases value.toModel.unpack <;> rfl
  have packs : value / divisor = .ofModel (.pack .notANumber) :=
    congrArg (fun number => Float.ofModel (.pack number)) quotient
  rw [packs]
  rfl

end Binary64

/-- The sample rate that a command sets. -/
def Command.rate? : Command α → Option α
  | .sampleRate _ _ hertz => some hertz
  | _ => none

theorem Command.rate?_eq_none_of_refusable {command : Command α}
    (unrefused : command.refusable = false) : command.rate? = none := by
  cases command with
  | sampleRate | setting => cases unrefused
  | _ => rfl

/-- A device takes positive rates and what is not a number. -/
theorem Command.accepted_sampleRate_iff {direction : Direction} {channel : Channel}
    {hertz : Float} : (Command.sampleRate direction channel hertz).accepted ↔
      0 < hertz ∨ ¬isNumber hertz := by
  change ¬hertz ≤ 0 ↔ _
  rw [Binary64.pos_iff]
  have number : hertz ≤ 0 → isNumber hertz := fun low => (Total.le_iff.mp low).1
  tauto

/-- What an action on the device keeps is kept beside the clock. -/
theorem Timed.onDevice_keeps {σ ε β : Type} {action : Action σ ε β} {invariant : σ → Prop}
    (keeps : ∀ device, invariant device → invariant (action device).2) (world : Timed σ)
    (holds : invariant world.device) : invariant (Timed.onDevice action world).2.device := by
  have kept := keeps world.device holds
  unfold onDevice Action.onPart
  rcases outcome : action world.device with ⟨_ | _, after⟩ <;> rw [outcome] at kept <;> exact kept

namespace Simulator

/-- The command that an entry set a target by, if it did. -/
def Entry.sets? (target : Target) : Entry α → Option (Command α)
  | ⟨.command command, .done, _⟩ => if target = command.target then some command else none
  | _ => none

namespace Record

/-- The command that last set a target, if there was one. Entries stand newest first. -/
def last? (record : Record α) (target : Target) : Option (Command α) :=
  record.findSome? (Entry.sets? target)

/-- The sample rate that a path last took, if it took any. -/
def rate? (record : Record α) (direction : Direction) (channel : Channel) : Option α :=
  (record.last? (.path direction channel .sampleRate)).bind Command.rate?

end Record

theorem Performed.device_ofResult {β : Type} (reply : β → Reply)
    (result : Except DeviceError β × Simulator ν α) :
    (Performed.ofResult reply result).device = result.2 := by
  rcases result with ⟨_ | _, _⟩ <;> rfl

section Performing

variable [Scalar α] [Numeral α] [NoiseSource ν α]

omit [Scalar α] [Numeral α] [NoiseSource ν α] in
theorem sets?_of_failed {entry : Entry α} (failed : entry.reply.failed) (target : Target) :
    entry.sets? target = none := by
  obtain ⟨operation, reply, buffers⟩ := entry
  cases reply with
  | refused | interrupted => cases operation <;> rfl
  | done | opened | delivered => cases failed

omit [Scalar α] [Numeral α] [NoiseSource ν α] in
/-- What a device stands at tells the rate of a path. -/
theorem sampleRate_of_current {before after : Simulator ν α} {direction : Direction}
    {channel : Channel} {set : Option (Command α)}
    (stands : after.current (.path direction channel .sampleRate) =
      set.or (before.current (.path direction channel .sampleRate))) :
    (after.path direction channel).sampleRate =
      (set.bind Command.rate?).getD (before.path direction channel).sampleRate := by
  have shown : some (after.path direction channel).sampleRate =
      (set.or (before.current (.path direction channel .sampleRate))).bind Command.rate? :=
    congrArg (fun current => current.bind Command.rate?) stands
  cases set with
  | none => exact Option.some.inj shown
  | some command =>
      rw [Option.some_or] at shown
      rw [← shown, Option.getD_some]

/-- What is done to a device sets the target of a command that it takes, and no other. -/
theorem current_perform (device : Simulator ν α) (operation : Operation α) (target : Target) :
    (device.perform operation).device.current target =
      ((device.entry operation).sets? target).or (device.current target) := by
  by_cases prevented : device.Prevents operation
  · obtain ⟨failed, unchanged, -⟩ := perform_of_prevents prevented
    rw [unchanged, sets?_of_failed failed, Option.none_or]
  -- Of all operations that are carried out only a command sets anything.
  unfold entry
  cases operation with
  | command issued =>
      have carried := carryOut_of_accepted (not_not.mp (not_or.mp prevented).2) device
      rw [perform_command prevented, current_carryOut carried]
      simp only [Entry.sets?]
      split_ifs <;> rfl
  | openStream channels =>
      rw [perform_openStream prevented]
      cases target <;> rfl
  | activate stream count =>
      rw [perform_activate prevented]
      cases target <;> rfl
  | read stream buffers wait =>
      rw [perform_read prevented rfl rfl]
      cases target <;> rfl
  | closeStream | failOperation | failReadsAfter | stallReads => cases target <;> rfl

/-- **Last write.** Whatever is done to a device, it stands at what was last set of each target. -/
theorem current_performAll (operations : List (Operation α)) (device : Simulator ν α)
    (target : Target) :
    (device.performAll operations).2.current target =
      ((device.performAll operations).1.last? target).or (device.current target) := by
  induction operations generalizing device with
  | nil => rfl
  | cons operation rest ih =>
      have later := ih (device.perform operation).device
      rw [current_perform, ← Option.or_assoc] at later
      simp only [performAll, Record.last?, List.findSome?_append, List.findSome?_singleton]
      exact later

/-- What sets a target is a command that the device takes. -/
theorem accepted_of_sets? {device : Simulator ν α} {operation : Operation α} {target : Target}
    {command : Command α} (sets : (device.entry operation).sets? target = some command) :
    operation = .command command ∧ command.accepted := by
  have allowed : ¬device.Prevents operation := by
    intro prevents
    rw [sets?_of_failed (perform_of_prevents prevents).1] at sets
    cases sets
  cases operation with
  | command issued =>
      unfold entry at sets
      rw [perform_command allowed] at sets
      simp only [Entry.sets?, Option.ite_none_right_eq_some, Option.some.injEq] at sets
      obtain ⟨-, rfl⟩ := sets
      exact ⟨rfl, not_not.mp (not_or.mp allowed).2⟩
  | _ => cases sets

theorem accepted_of_last? {operations : List (Operation α)} {device : Simulator ν α}
    {target : Target} {command : Command α}
    (last : (device.performAll operations).1.last? target = some command) : command.accepted := by
  induction operations generalizing device with
  | nil => cases last
  | cons operation rest ih =>
      simp only [performAll, Record.last?, List.findSome?_append, List.findSome?_singleton,
        Option.or_eq_some_iff] at last
      rcases last with later | ⟨-, first⟩
      · exact ih later
      · exact (accepted_of_sets? first).2

/-- A path has the rate that it last took, or the one that it had before. -/
theorem sampleRate_performAll (operations : List (Operation α)) (device : Simulator ν α)
    (direction : Direction) (channel : Channel) :
    ((device.performAll operations).2.path direction channel).sampleRate =
      ((device.performAll operations).1.rate? direction channel).getD
        (device.path direction channel).sampleRate :=
  sampleRate_of_current (current_performAll operations device _)

/-- A rate that was taken is not zero or less. -/
theorem not_nonpositive_of_rate? {operations : List (Operation α)} {device : Simulator ν α}
    {direction : Direction} {channel : Channel} {hertz : α}
    (taken : hertz ∈ (device.performAll operations).1.rate? direction channel) : ¬hertz ≤ 0 := by
  obtain ⟨command, last, rate⟩ := Option.bind_eq_some_iff.mp taken
  have accepted := accepted_of_last? last
  cases command with
  | sampleRate =>
      cases rate
      exact accepted
  | _ => cases rate

end Performing

/-- **Rates are positive as far as they are numbers.** Whatever was done to a device of any model,
a path has the rate that it last took, or ten million if it took none. That is never zero or less,
and it is positive unless the rate that was last taken is not a number. Of all rates a device that
was not told to fail refuses the numbers that are not positive, and no others. A read divides by
the rates of the receive paths. -/
theorem rate_positive_iff [NoiseSource ν Float] (model : LoopbackModel Float) (noise : ν)
    (operations : List (Operation Float)) (direction : Direction) (channel : Channel) :
    let record := ((initial model noise).performAll operations).1
    let device := ((initial model noise).performAll operations).2
    let rate := (device.path direction channel).sampleRate
    rate = (record.rate? direction channel).getD (ofCount 10000000) ∧
      ¬rate ≤ 0 ∧
      (0 < rate ↔ ∀ hertz ∈ record.rate? direction channel, isNumber hertz) ∧
      (∀ hertz,
        (device.perform (.command (.sampleRate direction channel hertz))).reply.failed ↔
          device.failOperation = some "set_sample_rate" ∨ isNumber hertz ∧ ¬0 < hertz) ∧
      (device.chain channel).rx.rate = (device.path .rx channel).sampleRate := by
  intro record device rate
  have made : ((initial model noise).path direction channel).sampleRate = ofCount 10000000 := by
    cases direction <;> cases channel <;> rfl
  have rate_eq : rate = (record.rate? direction channel).getD (ofCount 10000000) :=
    made ▸ sampleRate_performAll operations (initial model noise) direction channel
  have start : (0 : Float) < ofCount 10000000 := by decide +kernel
  have above : ¬rate ≤ 0 := by
    rw [rate_eq]
    cases taken : record.rate? direction channel with
    | none => exact Binary64.not_nonpositive start
    | some hertz => exact not_nonpositive_of_rate? taken
  refine ⟨rate_eq, above, ?_, fun hertz => ?_, rfl⟩
  · rw [Binary64.pos_iff, and_iff_left above, rate_eq]
    cases taken : record.rate? direction channel with
    | none => exact iff_of_true (Total.isNumber_of_lt start) nofun
    | some hertz => simp
  · refine failed_iff_prevents.trans (or_congr_right ?_)
    rw [Command.accepted_sampleRate_iff, not_or, not_not, and_comm]

/-- A refused rate leaves the one before it. What is not a number is taken, on its own path. -/
theorem rate_positive_iff_refused :
    let operations : List (Operation Float) :=
      [.command (.sampleRate .rx .a 5000000), .command (.sampleRate .rx .a 0),
        .command (.sampleRate .tx .b Binary64.notNumber)]
    let device := (Calibration.fresh.performAll operations).2
    (device.path .rx .a).sampleRate = 5000000 ∧ 0 < (device.path .rx .a).sampleRate ∧
      ¬0 < (device.path .tx .b).sampleRate := by
  intro operations device
  obtain ⟨kept, -, positive, -⟩ := rate_positive_iff Calibration.fresh.model () operations .rx .a
  obtain ⟨-, -, void, -⟩ := rate_positive_iff Calibration.fresh.model () operations .tx .b
  refine ⟨kept, positive.mpr ?_, fun above => ?_⟩
  · rintro hertz ⟨⟩
    decide +kernel
  · exact absurd (void.mp above Binary64.notNumber rfl) (by decide +kernel)

/-- A device takes what is not a number as a rate, and then the time of no sample is a number. -/
theorem void_rate_taken :
    let set : Operation Float := .command (.sampleRate .rx .a Binary64.notNumber)
    let device := ((ofModel .standard).performAll [set]).2
    ((ofModel .standard).perform set).reply = .done ∧ ¬0 < (device.path .rx .a).sampleRate ∧
      ∀ index, isNumber (ofCount index / (device.chain .a).rx.rate) = false := by
  intro set device
  have void : ¬isNumber Binary64.notNumber := by decide +kernel
  have rate_eq : (device.path .rx .a).sampleRate = Binary64.notNumber := by rfl
  refine ⟨by decide +kernel, ?_, fun index => ?_⟩
  · rw [rate_eq]
    exact fun above => void (Total.isNumber_of_lt above)
  · have divisor : (device.chain .a).rx.rate = Binary64.notNumber := rate_eq
    rw [divisor]
    exact Binary64.isNumber_div_eq_false _ void

section Steady

variable [Scalar α] [Numeral α] [NoiseSource ν α]

/-- All rates are positive. -/
def Steady (device : Simulator ν α) : Prop :=
  ∀ direction channel, 0 < (device.path direction channel).sampleRate

/-- Rates stay positive as long as no other one is set. -/
theorem steady_perform {device : Simulator ν α} (steady : device.Steady)
    (operation : Operation α)
    (positive : ∀ command, operation = .command command → ∀ hertz ∈ command.rate?, 0 < hertz) :
    (device.perform operation).device.Steady := by
  intro direction channel
  rw [sampleRate_of_current (current_perform device operation _)]
  cases sets : (device.entry operation).sets? (.path direction channel .sampleRate) with
  | none => exact steady direction channel
  | some command =>
      rw [Option.bind_some]
      cases rate : command.rate? with
      | none => exact steady direction channel
      | some hertz => exact positive command (accepted_of_sets? sets).1 hertz rate

theorem steady_command {command : Command α} (positive : ∀ hertz ∈ command.rate?, 0 < hertz)
    {device : Simulator ν α} (steady : device.Steady) :
    (Simulator.command command device).2.Steady := by
  rw [← Performed.device_ofResult fun _ => .done]
  refine steady_perform steady (.command command) ?_
  rintro _ ⟨⟩
  exact positive

theorem steady_openStream (channels : List Channel) {device : Simulator ν α}
    (steady : device.Steady) : (openStream channels device).2.Steady := by
  rw [← Performed.device_ofResult .opened]
  exact steady_perform steady (.openStream channels) nofun

theorem steady_activate (stream : List Channel) (count : Nat) {device : Simulator ν α}
    (steady : device.Steady) : (activate stream count device).2.Steady := by
  rw [← Performed.device_ofResult fun _ => .done]
  exact steady_perform steady (.activate stream count) nofun

omit [Numeral α] in
theorem steady_read (stream : List Channel) (rooms : List Nat) (wait : Duration)
    {device : Simulator ν α} (steady : device.Steady) :
    (read stream rooms wait device).2.Steady := by
  unfold read
  split_ifs <;> exact steady

/-- Given no other rates than positive ones, the rig keeps all rates positive. -/
theorem keeps_steady (clock : Clock) (stops : Nat → Bool) :
    (timed (ν := ν) (α := α) clock stops).Keeps (fun command => ∀ hertz ∈ command.rate?, 0 < hertz)
      fun world => world.device.Steady where
  command _ positive := Timed.onDevice_keeps fun _ => steady_command positive
  openStream channels := Timed.onDevice_keeps fun _ => steady_openStream channels
  activate stream count := Timed.onDevice_keeps fun _ => steady_activate stream count
  read stream rooms wait := Timed.onDevice_keeps fun _ => steady_read stream rooms wait
  closeStream _ := Timed.onDevice_keeps fun _ => id
  now _ := id
  note _ _ := id

end Steady

end Simulator

section Running

variable [Scalar α]

/-- The setup sets no other rate than that of the configuration. -/
theorem Config.rate?_setup {config : Config α} :
    ∀ command ∈ config.setup, ∀ hertz ∈ command.rate?, hertz = config.sampleRate := by
  have fronts : ∀ channel, ∀ command ∈ config.channelSetup channel,
      ∀ hertz ∈ command.rate?, hertz = config.sampleRate := by
    intro channel
    simp [channelSetup, txGainPlan, rxGainPlan, Command.rate?]
  have tones : ∀ channel, ∀ command ∈ toneSetup (α := α) channel, command.rate? = none := by
    intro channel
    simp [toneSetup, Command.rate?]
  have silent : ∀ command : Command α, command.rate? = none →
      ∀ hertz ∈ command.rate?, hertz = config.sampleRate :=
    fun _ unset _ set => absurd (unset ▸ set) (Option.not_mem_none _)
  simp only [setup, List.forall_mem_append, List.forall_mem_map, List.forall_mem_singleton,
    List.forall_mem_flatMap]
  exact ⟨⟨⟨fun _ _ => silent _ rfl, silent _ rfl⟩, fun channel _ => fronts channel⟩,
    fun channel _ command member => silent command (tones channel command member)⟩

/-- **A run keeps all rates positive.** A device whose rates are positive has such rates after a
run with a valid configuration, whether the run gives an outcome or fails anywhere. -/
theorem Calibration.steady_run [Numeral α] [NoiseSource ν α] {config : Config α}
    (valid : config.isValid) (clock : Clock) (stops : Nat → Bool) (frequency : α)
    {progress : Progress (Timed (Simulator ν α))} (steady : progress.world.device.Steady) :
    (run (Simulator.timed clock stops) config frequency progress).2.world.device.Steady := by
  have positive := (Config.isValid_iff_obeys.mp valid).sampleRate
  refine (Simulator.keeps_steady clock stops).run (fun command unrefused => ?_)
    (fun command member hertz set => ?_) frequency steady
  · rw [Command.rate?_eq_none_of_refusable unrefused]
    exact fun _ set => absurd set (Option.not_mem_none _)
  · rwa [Config.rate?_setup command member hertz set]

end Running

end LoopbackCalibration
