import LoopbackCalibration.Proofs.Simulator.Operations

/-! # The accounts of the simulated transceiver

Whatever is done to a simulated transceiver, its counters tell what succeeded so far, and the
burst is what was activated less what was delivered since (`Simulator.burst_accounts`). Hence no
reads bring more than was activated, and a burst that is used up brings nothing more.
-/

namespace LoopbackCalibration

namespace Simulator

variable {ν α : Type}

/-- An operation that was performed, with what it replied and left in the buffers of its
caller. -/
structure Entry (α : Type) where
  operation : Operation α
  reply : Reply
  buffers : List (Array (Phasor α))

namespace Entry

/-- The length of the burst that was activated, if one was. -/
def activated? : Entry α → Option Nat
  | ⟨.activate _ count, .done, _⟩ => some count
  | _ => none

/-- Samples that were put into every buffer. -/
def delivered : Entry α → Nat
  | ⟨.read .., .delivered count, _⟩ => count
  | _ => 0

/-- Whether a read brought samples. -/
def reads : Entry α → Bool
  | ⟨.read .., .delivered _, _⟩ => true
  | _ => false

/-- Whether an IQ balance was set. -/
def balances : Entry α → Bool
  | ⟨.command command, .done, _⟩ => command.balances
  | _ => false

/-- Whether a stream was opened. -/
def opens : Entry α → Bool
  | ⟨.openStream _, .opened _, _⟩ => true
  | _ => false

/-- Whether a stream was closed. -/
def closes : Entry α → Bool
  | ⟨.closeStream _, .done, _⟩ => true
  | _ => false

end Entry

/-- What was done to a device, last to first. -/
abbrev Record (α : Type) : Type := List (Entry α)

namespace Record

/-- What was done since a burst was last activated. -/
def sinceActivation (record : Record α) : Record α :=
  record.takeWhile fun entry => entry.activated?.isNone

/-- The length of the burst that was last activated; zero if none was. -/
def activated (record : Record α) : Nat := (record.findSome? Entry.activated?).getD 0

/-- Samples that were put into every buffer, over all reads. -/
def delivered (record : Record α) : Nat := (record.map Entry.delivered).sum

/-- What is left of the burst that was last activated, unless a stream was closed since. -/
def remaining (record : Record α) : Nat :=
  if record.sinceActivation.any Entry.closes then 0
  else record.activated - record.sinceActivation.delivered

/-- What succeeded. -/
def counters (record : Record α) : Counters where
  reads := record.countP Entry.reads
  iqWrites := record.countP Entry.balances
  sampleClock := record.delivered
  opened := record.countP Entry.opens
  closed := record.countP Entry.closes

variable {entry : Entry α} (record : Record α)

theorem delivered_cons :
    delivered (entry :: record) = entry.delivered + record.delivered := rfl

theorem activated_cons :
    activated (entry :: record) = entry.activated?.getD record.activated := by
  simp only [activated, List.findSome?_cons]
  cases entry.activated? <;> rfl

theorem sinceActivation_cons : sinceActivation (entry :: record) =
    if entry.activated?.isNone then entry :: record.sinceActivation else [] :=
  List.takeWhile_cons

theorem remaining_le : record.remaining ≤ record.activated - record.sinceActivation.delivered := by
  unfold remaining
  split
  · exact Nat.zero_le _
  · exact Nat.le_refl _

/-- An activation starts a new burst, a close ends the burst, and a delivery takes from it. -/
theorem remaining_cons : remaining (entry :: record) =
    entry.activated?.getD (if entry.closes then 0 else record.remaining - entry.delivered) := by
  simp only [remaining, sinceActivation_cons, activated_cons]
  cases entry.activated? with
  | some count => rfl
  | none =>
      simp only [Option.getD_none, Option.isNone_none, if_true, List.any_cons, delivered_cons]
      cases entry.closes with
      | true => rfl
      | false =>
          simp only [Bool.false_or, Bool.false_eq_true, if_false]
          split
          · exact (Nat.zero_sub _).symm
          · omega

/-- Nothing more is delivered than is left. -/
theorem delivered_le_activated_cons (within : record.sinceActivation.delivered ≤ record.activated)
    (left : entry.delivered ≤ record.remaining) :
    (sinceActivation (entry :: record)).delivered ≤ activated (entry :: record) := by
  have most := left.trans record.remaining_le
  rw [sinceActivation_cons, activated_cons]
  cases entry.activated? with
  | some count => exact Nat.zero_le _
  | none =>
      change entry.delivered + record.sinceActivation.delivered ≤ record.activated
      omega

theorem counters_cons : counters (entry :: record) =
    { reads := record.counters.reads + entry.reads.toNat
      iqWrites := record.counters.iqWrites + entry.balances.toNat
      sampleClock := record.counters.sampleClock + entry.delivered
      opened := record.counters.opened + entry.opens.toNat
      closed := record.counters.closed + entry.closes.toNat } := by
  simp only [counters, List.countP_cons, delivered_cons, Bool.toNat, Bool.cond_eq_ite,
    Nat.add_comm entry.delivered]

end Record

section Performing

variable [Scalar α] [Numeral α] [NoiseSource ν α] {device after : Simulator ν α}

/-- The entry of an operation that is performed on a device. -/
def entry (device : Simulator ν α) (operation : Operation α) : Entry α :=
  ⟨operation, (device.perform operation).reply, (device.perform operation).buffers⟩

/-- Perform operations one after the other. -/
def performAll : List (Operation α) → Simulator ν α → Record α × Simulator ν α
  | [], device => ([], device)
  | operation :: rest, device =>
    match performAll rest (device.perform operation).device with
    | (later, last) => (later ++ [device.entry operation], last)

/-- What an operation costs and counts, told by its entry in the record. -/
structure Charges (device : Simulator ν α) (entry : Entry α) (after : Simulator ν α) : Prop where
  model_eq : after.model = device.model
  burst_eq : after.burst =
    entry.activated?.getD (if entry.closes then 0 else device.burst - entry.delivered)
  delivered_le : entry.delivered ≤ device.burst
  counters_eq : after.counters =
    { reads := device.reads + entry.reads.toNat
      iqWrites := device.iqWrites + entry.balances.toNat
      sampleClock := device.sampleClock + entry.delivered
      opened := device.opened + entry.opens.toNat
      closed := device.closed + entry.closes.toNat }

omit [Scalar α] [Numeral α] [NoiseSource ν α] in
/-- A failure costs nothing. -/
theorem charges_of_failed {entry : Entry α} (failed : entry.reply.failed) :
    Charges device entry device := by
  obtain ⟨operation, reply, buffers⟩ := entry
  cases reply with
  | refused cause | interrupted cause =>
      cases operation <;> exact ⟨rfl, rfl, Nat.zero_le _, rfl⟩
  | done | opened | delivered => cases failed

theorem charges_perform (device : Simulator ν α) (operation : Operation α) :
    Charges device (device.entry operation) (device.perform operation).device := by
  by_cases prevented : device.Prevents operation
  · obtain ⟨failed, unchanged, -⟩ := perform_of_prevents prevented
    rw [unchanged]
    exact charges_of_failed failed
  unfold entry
  cases operation with
  | command issued =>
      rw [perform_command prevented]
      exact ⟨congrArg Core.model (core_carryOut issued device), burst_carryOut issued device,
        Nat.zero_le _, counters_carryOut issued device⟩
  | openStream channels =>
      rw [perform_openStream prevented]
      exact ⟨rfl, rfl, Nat.zero_le _, rfl⟩
  | activate stream count =>
      rw [perform_activate prevented]
      exact ⟨rfl, rfl, Nat.zero_le _, rfl⟩
  | read stream buffers wait =>
      rw [perform_read prevented rfl rfl]
      exact ⟨rfl, rfl, Nat.min_le_left .., rfl⟩
  | closeStream | failOperation | failReadsAfter | stallReads =>
      exact ⟨rfl, rfl, Nat.zero_le _, rfl⟩

/-- What a record tells of a device that was made from a model. -/
structure Accounts (model : LoopbackModel α) (record : Record α) (device : Simulator ν α) :
    Prop where
  model_eq : device.model = model
  burst_eq : device.burst = record.remaining
  within : record.sinceActivation.delivered ≤ record.activated
  counters_eq : device.counters = record.counters

namespace Accounts

variable {model : LoopbackModel α} {record : Record α}

omit [Scalar α] [Numeral α] [NoiseSource ν α] in
theorem charge {entry : Entry α} (accounts : Accounts model record device)
    (charges : Charges device entry after) : Accounts model (entry :: record) after := by
  obtain ⟨model_eq, burst_eq, within, counters_eq⟩ := accounts
  refine ⟨charges.model_eq.trans model_eq, ?_, ?_, ?_⟩
  · rw [charges.burst_eq, burst_eq, Record.remaining_cons]
  · exact Record.delivered_le_activated_cons record within (burst_eq ▸ charges.delivered_le)
  · rw [charges.counters_eq, Record.counters_cons, ← counters_eq]
    rfl

theorem performAll (operations : List (Operation α)) (accounts : Accounts model record device) :
    Accounts model ((device.performAll operations).1 ++ record)
      (device.performAll operations).2 := by
  induction operations generalizing record device with
  | nil => exact accounts
  | cons operation rest ih =>
      simp only [Simulator.performAll, List.append_assoc]
      exact ih (accounts.charge (charges_perform device operation))

omit [Numeral α] [NoiseSource ν α] in
theorem initial (model : LoopbackModel α) (noise : ν) :
    Accounts model [] (initial model noise) :=
  ⟨rfl, rfl, Nat.le_refl _, rfl⟩

end Accounts

/-- A read that does not fail brings what is left, as far as one read and the shortest buffer go,
to the start of every buffer, and the rest of the buffer stays. -/
theorem perform_read_of_not_failed {stream : List Channel} {buffers : List (Array (Phasor α))}
    {wait : Duration} (successful : ¬(device.perform (.read stream buffers wait)).reply.failed) :
    let count := device.deliverable (buffers.map Array.size)
    (device.perform (.read stream buffers wait)).reply = .delivered count ∧
      buffers.length = stream.length ∧
      ∃ written : List (Array (Phasor α)), written.length = buffers.length ∧
        (∀ samples ∈ written, samples.size = count) ∧
        (device.perform (.read stream buffers wait)).buffers =
          List.zipWith (fun samples buffer => samples ++ buffer.extract count) written buffers := by
  intro count
  have allowed : ¬device.Prevents (.read stream buffers wait) :=
    mt failed_iff_prevents.mpr successful
  have matching := length_buffers_of_allowed allowed
  rw [perform_read allowed rfl rfl]
  exact ⟨rfl, matching, _, (length_receiveAll ..).trans matching.symm,
    fun samples member => size_of_mem_receiveAll member, rfl⟩

/-- Nothing but an activation brings samples to a device that has none left. -/
theorem interrupted_of_unactivated {operations : List (Operation α)} (used : device.burst = 0)
    (unactivated : ∀ entry ∈ (device.performAll operations).1, entry.activated? = none) :
    ∀ stream buffers wait reply left,
      ⟨.read stream buffers wait, reply, left⟩ ∈ (device.performAll operations).1 →
        ∃ status, reply = .interrupted status := by
  intro stream buffers wait reply left member
  induction operations generalizing device with
  | nil => cases member
  | cons operation rest ih =>
      simp only [performAll, List.mem_append, List.mem_singleton] at member unactivated
      -- closes and reads leave a used up burst as it is, so what follows starts with nothing left
      have unused : (device.perform operation).device.burst = 0 := by
        have charges := charges_perform device operation
        rw [charges.burst_eq, unactivated _ (.inr rfl), used, Nat.zero_sub, ite_self]
        rfl
      rcases member with later | first
      · exact ih unused (fun entry member => unactivated entry (.inl member)) later
      · obtain ⟨rfl, rfl, rfl⟩ := Entry.mk.inj first
        have withholds : device.Withholds stream buffers.length := .inr (.inr (.inl used))
        obtain ⟨status, fails⟩ := read_of_withholds withholds wait
        exact ⟨status, by simp only [perform, fails]⟩

/-- **A burst is accounted for.** After any operations on a new device, what is left of the burst
is what was last activated less what was delivered since, and nothing if a stream was closed since
or no burst was ever activated. No more was delivered since than was activated, and every counter
is the number of successes that it stands for. A read that nothing prevents delivers what is left,
as far as one read and the shortest buffer go, to the start of every buffer. Once nothing is left
every read fails, until a burst is activated. -/
theorem burst_accounts (model : LoopbackModel α) (noise : ν) (operations : List (Operation α)) :
    let record := ((initial model noise).performAll operations).1
    let device := ((initial model noise).performAll operations).2
    device.burst = record.remaining ∧
      record.sinceActivation.delivered ≤ record.activated ∧
      device.counters = record.counters ∧
      (∀ stream buffers wait,
        let performed := device.perform (.read stream buffers wait)
        let shortest := (buffers.map Array.size).min?.getD 0
        let count := min record.remaining (min model.maxRead shortest)
        (performed.reply.failed ↔ device.Withholds stream buffers.length) ∧
          (¬performed.reply.failed →
            performed.reply = .delivered count ∧ buffers.length = stream.length ∧
              ∃ written : List (Array (Phasor α)), written.length = buffers.length ∧
                (∀ samples ∈ written, samples.size = count) ∧
                performed.buffers = List.zipWith
                  (fun samples buffer => samples ++ buffer.extract count) written buffers)) ∧
      (record.remaining = 0 → ∀ later,
        (∀ entry ∈ (device.performAll later).1, entry.activated? = none) →
          ∀ stream buffers wait reply left,
            ⟨.read stream buffers wait, reply, left⟩ ∈ (device.performAll later).1 →
              ∃ status, reply = .interrupted status) := by
  intro record device
  have accounts : Accounts model (record ++ []) device :=
    (Accounts.initial model noise).performAll operations
  rw [List.append_nil] at accounts
  refine ⟨accounts.burst_eq, accounts.within, accounts.counters_eq, ?_, ?_⟩
  · intro stream buffers wait
    rw [← accounts.burst_eq, ← accounts.model_eq]
    exact ⟨failed_iff_prevents, perform_read_of_not_failed⟩
  · intro none later unactivated
    exact interrupted_of_unactivated (accounts.burst_eq.trans none) unactivated

end Performing

/-- Two samples are read of a burst of three, and then the last one. A close loses it. -/
theorem burst_accounts_three :
    let read : Operation Float := .read Channel.all [#[.one, .zero, .one], #[.one, .zero, .one]] ⟨0⟩
    let operations := [.activate Channel.all 3, read]
    let left := (Calibration.fresh.performAll operations).2
    let closed := (Calibration.fresh.performAll (operations ++ [.closeStream Channel.all])).2
    left.counters = ⟨1, 0, 2, 0, 0⟩ ∧ (left.perform read).reply = .delivered 1 ∧
      ∃ status, (closed.perform read).reply = .interrupted status := by
  intro read operations left closed
  obtain ⟨-, -, counted, reads, -⟩ := burst_accounts Calibration.fresh.model () operations
  obtain ⟨-, -, -, -, closes⟩ := burst_accounts Calibration.fresh.model ()
    (operations ++ [.closeStream Channel.all])
  refine ⟨counted, ((reads _ _ _).2 (by decide +kernel)).1, ?_⟩
  exact closes rfl [read] (by decide +kernel) _ _ _ _ _ (List.mem_singleton.mpr rfl)

end Simulator

end LoopbackCalibration
