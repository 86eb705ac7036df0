import Mathlib.Data.List.Forall2
import LoopbackCalibration.Proofs.Scalar.Zeros
import LoopbackCalibration.Proofs.Simulator.Accounts

/-! # The signal of a burst, however it is read

Without noise a sample of a simulated transceiver depends on its settings and on its index since
the device was made, and on nothing else. A burst therefore brings the same samples in however
many reads it is read, however large their buffers are and however much one read may bring
(`Simulator.chunks_keep_signal`). The samples are numerically the same: noise of no strength can
still change the sign of a zero.
-/

namespace LoopbackCalibration

open Arithmetic

/-- What agrees with the same list agrees. -/
private theorem agree_of_agree {α : Type} [Arithmetic α] {first second signal : List (Phasor α)}
    (left : List.Forall₂ Phasor.Same first signal)
    (right : List.Forall₂ Phasor.Same second signal) : List.Forall₂ Phasor.Same first second := by
  induction left generalizing second with
  | nil =>
      cases right
      exact .nil
  | cons same _ ih =>
      cases right with
      | cons same' rest => exact .cons (same.trans same'.symm) (ih rest)

namespace Signal.Chain

variable {α : Type} [Scalar α] (chain : Signal.Chain α)

/-- The samples of a chain from an index on, as a buffer holds them when there is no noise. -/
def recorded (start count : Nat) : List (Phasor α) :=
  (List.range' start count).map fun index => (chain.sample index).stored

@[simp] theorem length_recorded (start count : Nat) :
    (chain.recorded start count).length = count := by
  simp [recorded]

theorem recorded_add (start first second : Nat) :
    chain.recorded start (first + second) =
      chain.recorded start first ++ chain.recorded (start + first) second := by
  unfold recorded
  rw [← List.range'_append_1, List.map_append]

end Signal.Chain

namespace Simulator

variable {ν α : Type}

/-- What a read brought to a buffer, given by its position. -/
def Entry.samples (position : Nat) : Entry α → List (Phasor α)
  | ⟨.read .., .delivered count, buffers⟩ => (buffers.getD position #[]).toList.take count
  | _ => []

theorem Entry.samples_of_failed {entry : Entry α} (failed : entry.reply.failed) (position : Nat) :
    entry.samples position = [] := by
  obtain ⟨operation, reply, buffers⟩ := entry
  cases reply with
  | refused cause | interrupted cause => cases operation <;> rfl
  | done | opened | delivered => cases failed

/-- What all reads brought to the buffers at a position, first to last. -/
def Record.samples (record : Record α) (position : Nat) : List (Phasor α) :=
  record.reverse.flatMap (Entry.samples position)

theorem Record.samples_append_entry (record : Record α) (entry : Entry α) (position : Nat) :
    Record.samples (record ++ [entry]) position =
      entry.samples position ++ record.samples position := by
  simp only [Record.samples, List.reverse_append, List.reverse_singleton, List.singleton_append,
    List.flatMap_cons]

/-- The buffers that a read is given and how long it may wait. -/
abbrev Reading (α : Type) : Type := List (Array (Phasor α)) × Duration

/-- Operations that read a stream. -/
def readings (stream : List Channel) (way : List (Reading α)) : List (Operation α) :=
  way.map fun reading => .read stream reading.1 reading.2

/-- Operations that activate a burst and read it. -/
def burstReadings (stream : List Channel) (count : Nat) (way : List (Reading α)) :
    List (Operation α) :=
  .activate stream count :: readings stream way

/-- A buffer for every channel, each with room for a sample. -/
def Roomy (stream : List Channel) (reading : Reading α) : Prop :=
  reading.1.length = stream.length ∧ ∀ buffer ∈ reading.1, 0 < buffer.size

/-- As long as a burst lasts the device has a sample for every read. -/
structure Flowing (device : Simulator ν α) : Prop where
  running : device.stalled = false
  unlimited : device.failReadsAfter = none
  chunk : 0 < device.model.maxRead

theorem deliverable_pos {device : Simulator ν α} {rooms : List Nat} (left : 0 < device.burst)
    (chunk : 0 < device.model.maxRead) (some : rooms ≠ []) (roomy : ∀ room ∈ rooms, 0 < room) :
    0 < device.deliverable rooms := by
  obtain ⟨least, minimum⟩ := Option.isSome_iff_exists.mp (List.isSome_min?_of_ne_nil some)
  have positive := roomy least (List.min?_mem minimum)
  unfold deliverable
  rw [minimum, Option.getD_some]
  omega

section Signals

variable [Scalar α] [NoiseSource ν α]

/-- Reads went on with the signal of a channel: they brought samples of the signal from the clock
on, and took them from the burst. -/
structure Continues (device : Simulator ν α) (channel : Channel) (samples : List (Phasor α))
    (after : Simulator ν α) : Prop where
  model_eq : after.model = device.model
  chain_eq : after.chain channel = device.chain channel
  burst_eq : samples.length + after.burst = device.burst
  clock_eq : after.sampleClock = device.sampleClock + samples.length
  agree : List.Forall₂ Phasor.Same samples
    ((device.chain channel).recorded device.sampleClock samples.length)

namespace Continues

omit [NoiseSource ν α]

variable {device middle after : Simulator ν α} {channel : Channel}

theorem nothing (device : Simulator ν α) (channel : Channel) : Continues device channel [] device :=
  ⟨rfl, rfl, Nat.zero_add _, rfl, .nil⟩

theorem append {first second : List (Phasor α)} (begins : Continues device channel first middle)
    (goesOn : Continues middle channel second after) :
    Continues device channel (first ++ second) after where
  model_eq := goesOn.model_eq.trans begins.model_eq
  chain_eq := goesOn.chain_eq.trans begins.chain_eq
  burst_eq := by rw [List.length_append, Nat.add_assoc, goesOn.burst_eq, begins.burst_eq]
  clock_eq := by rw [List.length_append, ← Nat.add_assoc, goesOn.clock_eq, begins.clock_eq]
  agree := by
    have later := goesOn.agree
    rw [begins.chain_eq, begins.clock_eq] at later
    rw [List.length_append, Signal.Chain.recorded_add]
    exact List.rel_append begins.agree later

end Continues

section Performing

variable [Numeral α] {device : Simulator ν α} {stream : List Channel}

/-- A read that nothing prevents brings to each buffer what was received for it. -/
theorem samples_entry {buffers : List (Array (Phasor α))} {wait : Duration} {count : Nat}
    {written : List (Array (Phasor α))} {noise : ν}
    (allowed : ¬device.Prevents (.read stream buffers wait))
    (counted : device.deliverable (buffers.map Array.size) = count)
    (received : device.receiveAll count stream device.noise = (written, noise))
    {position : Nat} (inside : position < stream.length) :
    (device.entry (.read stream buffers wait)).samples position =
      (written.getD position #[]).toList := by
  have lengths : (device.receiveAll count stream device.noise).1.length = stream.length :=
    length_receiveAll ..
  rw [received] at lengths
  have sizes : ∀ samples ∈ written, samples.size = count := fun samples member =>
    size_of_mem_receiveAll (by rwa [received])
  have matching := length_buffers_of_allowed allowed
  have placed : position < written.length := lengths ▸ inside
  have room : position < buffers.length := matching ▸ inside
  unfold entry
  rw [perform_read allowed counted received]
  simp only [Entry.samples, List.getD_eq_getElem?_getD, List.getElem?_zipWith,
    List.getElem?_eq_getElem placed, List.getElem?_eq_getElem room, Option.getD_some,
    Array.toList_append]
  exact List.take_left' (sizes _ (List.getElem_mem placed))

theorem performAll_burstReadings {count : Nat}
    (starts : ¬device.Prevents (.activate stream count)) (way : List (Reading α))
    (position : Nat) :
    (device.performAll (burstReadings stream count way)).1.samples position =
        (({ device with burst := count } : Simulator ν α).performAll
          (readings stream way)).1.samples position ∧
      (device.performAll (burstReadings stream count way)).2 =
        (({ device with burst := count } : Simulator ν α).performAll (readings stream way)).2 := by
  simp only [burstReadings, performAll, Record.samples_append_entry, entry,
    perform_activate starts]
  exact ⟨rfl, trivial⟩

theorem flowing_read (flowing : device.Flowing) (some : stream ≠ []) {reading : Reading α}
    (roomy : Roomy stream reading) :
    (device.perform (.read stream reading.1 reading.2)).device.Flowing ∧
      (device.perform (.read stream reading.1 reading.2)).device.burst ≤ device.burst - 1 := by
  by_cases prevented : device.Prevents (.read stream reading.1 reading.2)
  · have used : device.burst = 0 := by
      simpa [Prevents, Withholds, flowing.running, flowing.unlimited, roomy.1] using prevented
    rw [(perform_of_prevents prevented).2.1]
    exact ⟨flowing, by omega⟩
  · have left : 0 < device.burst := Nat.pos_of_ne_zero fun used =>
      prevented (.inr (.inr (.inl used)))
    have brings : 0 < device.deliverable (reading.1.map Array.size) :=
      deliverable_pos left flowing.chunk
        (by simpa [← List.length_eq_zero_iff, roomy.1] using some)
        (List.forall_mem_map.mpr roomy.2)
    rw [perform_read prevented rfl rfl]
    exact ⟨⟨flowing.running, flowing.unlimited, flowing.chunk⟩, Nat.sub_le_sub_left brings _⟩

/-- As many reads as a burst has samples use it up. -/
theorem burst_readings_le (flowing : device.Flowing) (some : stream ≠ [])
    (way : List (Reading α)) (roomy : ∀ reading ∈ way, Roomy stream reading) :
    (device.performAll (readings stream way)).2.burst ≤ device.burst - way.length := by
  induction way generalizing device with
  | nil => exact Nat.le_refl _
  | cons reading rest ih =>
      obtain ⟨flows, less⟩ := flowing_read flowing some (roomy _ List.mem_cons_self)
      have left := ih flows fun later member => roomy later (List.mem_cons_of_mem _ member)
      simp only [readings, List.map_cons, performAll, List.length_cons] at left ⊢
      omega

end Performing

section Silence

variable [Scalar.Zeros α]

/-- Draws of noise are finite, and storing keeps zeros. -/
structure Tame (ν α : Type) [Scalar α] [NoiseSource ν α] : Prop where
  isFinite_draw : ∀ noise : ν, isFinite (NoiseSource.draw noise : α × ν).1
  isZero_stored : ∀ {zero : α}, IsZero zero → IsZero (stored zero)

theorem receive_silent (tame : Tame ν α) {sigma : α} (silent : IsZero sigma)
    (chain : Signal.Chain α) (count index : Nat) (buffer : Array (Phasor α)) (noise : ν) :
    ∃ samples, (receive chain sigma count index buffer noise).1.toList = buffer.toList ++ samples ∧
      List.Forall₂ Phasor.Same samples (chain.recorded index count) := by
  induction count generalizing index buffer noise with
  | zero => exact ⟨[], (List.append_nil _).symm, .nil⟩
  | succ count ih =>
      -- noise of no strength is drawn all the same, so a sample is not equal but the same
      let re := (NoiseSource.draw noise : α × ν)
      let im := (NoiseSource.draw re.2 : α × ν)
      let sample := chain.sample index + Phasor.scale ⟨re.1, im.1⟩ sigma
      obtain ⟨samples, received, agree⟩ := ih (index + 1) (buffer.push sample.stored) im.2
      have finite : Phasor.isFinite ⟨re.1, im.1⟩ :=
        Bool.and_eq_true_iff.mpr ⟨tame.isFinite_draw noise, tame.isFinite_draw re.2⟩
      refine ⟨sample.stored :: samples, received.trans (by simp), .cons ?_ agree⟩
      exact (Phasor.same_add_scale silent _ finite).stored fun _ => tame.isZero_stored

theorem receiveAll_silent (tame : Tame ν α) {device : Simulator ν α}
    (silent : IsZero device.model.noiseRms) {stream : List Channel} {position : Nat}
    {channel : Channel} (placed : stream[position]? = some channel) (count : Nat) (noise : ν) :
    List.Forall₂ Phasor.Same
      ((device.receiveAll count stream noise).1.getD position #[]).toList
      ((device.chain channel).recorded device.sampleClock count) := by
  have sigma : IsZero device.model.noiseSigma :=
    isZero_larger_zero (Scalar.Zeros.isZero_div_root silent) Scalar.Zeros.isZero_zero
  induction stream generalizing position noise with
  | nil => cases placed
  | cons first rest ih =>
      cases position with
      | zero =>
          obtain rfl : first = channel := Option.some.inj placed
          obtain ⟨samples, received, agree⟩ := receive_silent tame sigma (device.chain first) count
            device.sampleClock (Array.mkEmpty count) noise
          simp only [receiveAll, List.getD_cons_zero, received]
          exact agree
      | succ position => exact ih placed _

variable [Numeral α] {device : Simulator ν α} {stream : List Channel} {position : Nat}
  {channel : Channel}

theorem continues_read (tame : Tame ν α) (silent : IsZero device.model.noiseRms)
    (placed : stream[position]? = some channel) (buffers : List (Array (Phasor α)))
    (wait : Duration) :
    Continues device channel
      ((device.entry (.read stream buffers wait)).samples position)
      (device.perform (.read stream buffers wait)).device := by
  by_cases prevented : device.Prevents (.read stream buffers wait)
  · obtain ⟨failed, unchanged, -⟩ := perform_of_prevents prevented
    rw [Entry.samples_of_failed failed, unchanged]
    exact .nothing device channel
  have agree := receiveAll_silent tame silent placed
    (device.deliverable (buffers.map Array.size)) device.noise
  have counted := agree.length_eq
  rw [Signal.Chain.length_recorded] at counted
  rw [samples_entry prevented rfl rfl (List.getElem?_eq_some_iff.mp placed).1,
    perform_read prevented rfl rfl]
  refine ⟨rfl, rfl, ?_, ?_, ?_⟩
  · have most : device.deliverable (buffers.map Array.size) ≤ device.burst := Nat.min_le_left ..
    rw [counted]
    exact Nat.add_sub_cancel' most
  · rw [counted]
  · rw [counted]
    exact agree

/-- However a stream is read, every channel goes on with its signal. -/
theorem continues_readings (tame : Tame ν α) (silent : IsZero device.model.noiseRms)
    (placed : stream[position]? = some channel) (way : List (Reading α)) :
    Continues device channel ((device.performAll (readings stream way)).1.samples position)
      (device.performAll (readings stream way)).2 := by
  induction way generalizing device with
  | nil => exact .nothing device channel
  | cons reading rest ih =>
      have begins := continues_read tame silent placed reading.1 reading.2
      have still : IsZero
          (device.perform (.read stream reading.1 reading.2)).device.model.noiseRms := by
        rwa [begins.model_eq]
      have goesOn := ih still
      simp only [readings, List.map_cons, performAll, Record.samples_append_entry]
      exact begins.append goesOn

/-- A burst starts anew, whatever is left of an earlier one: it goes on from the clock. -/
theorem continues_burst (tame : Tame ν α) (silent : IsZero device.model.noiseRms) {count : Nat}
    (starts : ¬device.Prevents (.activate stream count))
    (placed : stream[position]? = some channel) (way : List (Reading α)) :
    Continues { device with burst := count } channel
      ((device.performAll (burstReadings stream count way)).1.samples position)
      (device.performAll (burstReadings stream count way)).2 := by
  obtain ⟨samples, last⟩ := performAll_burstReadings starts way position
  have still : IsZero ({ device with burst := count } : Simulator ν α).model.noiseRms := silent
  rw [samples, last]
  exact continues_readings tame still placed way

/-- **However a burst is read, it brings the same signal.** A device without noise is in any state,
and a burst is activated and then read with any buffers. Whatever an earlier burst left, the new
one brings just the samples of the signal from the clock on, and with what is left of it they make
up its length. Reads into buffers with room use it up. The signal depends on nothing but the
settings: on a device with the same settings and the same clock, however much one read of that
device may bring, another way to read the whole burst brings numerically the same samples. -/
theorem chunks_keep_signal (tame : Tame ν α) {first second : Simulator ν α}
    (alike : Alike first second) (silent : IsZero first.model.noiseRms) {count : Nat}
    (starts : ¬first.Prevents (.activate stream count))
    (starts' : ¬second.Prevents (.activate stream count))
    (placed : stream[position]? = some channel) (way way' : List (Reading α)) :
    let reached := first.performAll (burstReadings stream count way)
    let reached' := second.performAll (burstReadings stream count way')
    let samples := reached.1.samples position
    samples.length + reached.2.burst = count ∧
      List.Forall₂ Phasor.Same samples
        ((first.chain channel).recorded first.sampleClock samples.length) ∧
      (first.Flowing → (∀ reading ∈ way, Roomy stream reading) → count ≤ way.length →
        reached.2.burst = 0) ∧
      first.chain channel = second.chain channel ∧
      (first.sampleClock = second.sampleClock → reached.2.burst = 0 → reached'.2.burst = 0 →
        List.Forall₂ Phasor.Same samples (reached'.1.samples position)) := by
  intro reached reached' samples
  have chains := alike.chain_eq channel
  obtain ⟨-, seed, maxRead, model⟩ := alike
  have silent' : IsZero second.model.noiseRms := by
    rw [model]
    exact silent
  have one := continues_burst tame silent starts placed way
  have other := continues_burst tame silent' starts' placed way'
  refine ⟨one.burst_eq, one.agree, ?_, chains, ?_⟩
  · intro flowing roomy enough
    have some : stream ≠ [] := List.ne_nil_of_length_pos
      (Nat.zero_lt_of_lt (List.getElem?_eq_some_iff.mp placed).1)
    have flows : ({ first with burst := count } : Simulator ν α).Flowing :=
      ⟨flowing.running, flowing.unlimited, flowing.chunk⟩
    have left := burst_readings_le flows some way roomy
    rw [← (performAll_burstReadings starts way position).2] at left
    exact Nat.eq_zero_of_le_zero (left.trans_eq (Nat.sub_eq_zero_of_le enough))
  · intro clocks used used'
    have length : samples.length = count := by simpa [reached, used] using one.burst_eq
    have length' : (reached'.1.samples position).length = count := by
      simpa [reached', used'] using other.burst_eq
    have signal : List.Forall₂ Phasor.Same (reached'.1.samples position)
        ((second.chain channel).recorded second.sampleClock
          (reached'.1.samples position).length) := other.agree
    rw [length', ← length, ← chains, ← clocks] at signal
    exact agree_of_agree one.agree signal

end Silence

end Signals

section Exact

/-- A source that always draws one. -/
instance : NoiseSource Unit ℝ where
  draw _ := (1, ())

/-- The whole part stands for an exact scalar. -/
noncomputable instance : Numeral ℝ where
  plain value := toString ⌊value⌋
  scientific value := toString ⌊value⌋

/-- A device without noise in the midst of a burst. -/
noncomputable def quiet (maxRead : Nat) : Simulator Unit ℝ :=
  let model : LoopbackModel ℝ := { LoopbackModel.standard with noiseRms := 0, maxRead }
  { initial model () with
    sampleClock := 7
    burst := 5 }

theorem tame_exact [NoiseSource ν ℝ] : Tame ν ℝ where
  isFinite_draw _ := Exact.isNumber_eq_true _
  isZero_stored := id

/-- Two reads of at most three samples bring what four reads of one sample bring. -/
theorem chunks_keep_signal_quiet :
    let buffer : Array (Phasor ℝ) := #[.zero, .zero, .zero, .zero]
    let one := (quiet 3).performAll
      (burstReadings [.b] 4 [([buffer], ⟨0⟩), ([buffer], ⟨0⟩)])
    let other := (quiet 1).performAll
      (burstReadings [.b] 4 (List.replicate 4 ([buffer], ⟨0⟩)))
    (one.1.samples 0).length = 4 ∧
      List.Forall₂ Phasor.Same (one.1.samples 0) (other.1.samples 0) := by
  intro buffer one other
  have starts : ∀ maxRead, ¬(quiet maxRead).Prevents (.activate [.b] 4) := by
    rintro maxRead ⟨⟩
  have used : one.2.burst = 0 := by decide +kernel
  have used' : other.2.burst = 0 := by decide +kernel
  have alike : Alike (quiet 3) (quiet 1) := ⟨rfl, _, _, rfl⟩
  have placed : [Channel.b][0]? = some .b := rfl
  obtain ⟨whole, -, -, -, same⟩ := chunks_keep_signal tame_exact alike
    (Exact.isZero_iff.mpr rfl) (starts 3) (starts 1) placed
    [([buffer], ⟨0⟩), ([buffer], ⟨0⟩)] (List.replicate 4 ([buffer], ⟨0⟩))
  have length : (one.1.samples 0).length + one.2.burst = 4 := whole
  rw [used] at length
  exact ⟨length, same rfl used used'⟩

end Exact

end Simulator

end LoopbackCalibration
