import LoopbackCalibration.Proofs.Calibration.Completion
import LoopbackCalibration.Proofs.Calibration.Invariant
import LoopbackCalibration.Proofs.Scalar.Real

/-! # A gauge

A device on which the tone that the offset search measures grows with the distance of
the transmit offset correction from a target. Every read brings one full period of the
tone, as strong as the correction that was written last makes it
(`Gauge.Faithful`). A calibration with it completes, and each level of its offset search
is that of the correction it was measured with (`Gauge.level_of_mem_offers`). It shows
that what is assumed of calibrations elsewhere can be had.
-/

namespace LoopbackCalibration

open Action

namespace Gauge

noncomputable section Device

/-- How strong the tone is with a correction: least at the target. -/
def strength (target correction : Phasor ℝ) : ℝ :=
  1 + (correction - target).normSquare

/-- One period of a tone at half the sample rate. -/
def period (strength : ℝ) : Array (Phasor ℝ) := #[⟨strength, 0⟩, ⟨-strength, 0⟩]

/-- What a read brings while offset corrections are in place. -/
def delivery (target : Phasor ℝ) (offsets : PerChannel (Phasor ℝ)) : Delivery ℝ :=
  ⟨2, Channel.all.map fun channel => period (strength target (offsets.get channel))⟩

/-- The offset corrections in place after a command. -/
def obey (command : Command ℝ) (offsets : PerChannel (Phasor ℝ)) : PerChannel (Phasor ℝ) :=
  match command with
  | .dcOffset .tx channel value => offsets.set channel value
  | _ => offsets

/-- The transceiver keeps the transmit offset corrections and nothing else. -/
def transceiver (target : Phasor ℝ) : Transceiver (PerChannel (Phasor ℝ)) Unit ℝ where
  description _ := "Gauge"
  command command := fun offsets => (.ok (), obey command offsets)
  openStream _ := Action.pure ()
  activate _ _ := Action.pure ()
  read _ _ _ := fun offsets => (.ok (delivery target offsets), offsets)
  closeStream _ := Action.pure ()

/-- The gauge beside a clock that a look does not move on. -/
def rig (target : Phasor ℝ) : Rig (Hosted (PerChannel (Phasor ℝ))) Unit ℝ :=
  .ofDevice (transceiver target) (fun _ => false) 0

/-- No offsets set yet, at the start of the clock. -/
def start : Progress (Hosted (PerChannel (Phasor ℝ))) := .start (.start (.both .zero))

/-- The tone is at half the sample rate, and a capture is one period of it. -/
def config : Config ℝ :=
  { Config.standard with
    txDelta := 5000000
    samplesPerCapture := 2
    binsPerFft := 2 }

end Device

theorem fits : config.Fits 2 where
  grids := by decide
  candidates := by decide
  samples := by decide
  timeout := by decide
  horizon := by decide

section Log

variable {target : Phasor ℝ}

/-- A delivery brings one period of a strength on a channel. -/
def Brings (strength : ℝ) (channel : Channel) (delivery : Delivery ℝ) : Prop :=
  delivery.count = 2 ∧ delivery.taken channel.index 2 = period strength

/-- A delivery shows what was written last as offset correction of each channel. -/
def Reads (target : Phasor ℝ) (past : List (Event Unit ℝ)) (delivery : Delivery ℝ) : Prop :=
  ∀ channel value, lastWrite .dcOffset .tx channel past = some (value, .ok ()) →
    Brings (strength target value) channel delivery

/-- A journal in front of a gauge: no time passes, the correction written last is the one
in place, and every read shows the corrections that were written last before it. -/
structure Faithful (target : Phasor ℝ)
    (journal : Journal (Hosted (PerChannel (Phasor ℝ))) Unit ℝ) : Prop where
  clock : journal.world.clock = 0
  stopRequested : journal.world.stopRequested = false
  inPlace : ∀ channel value,
    lastWrite .dcOffset .tx channel journal.events = some (value, .ok ()) →
      journal.world.device.get channel = value
  reads : ∀ past stream rooms wait delivery future,
    journal.events = past ++ .read stream rooms wait (.ok delivery) :: future →
      Reads target past delivery

theorem faithful_start : Faithful target (.start start.world) where
  clock := rfl
  stopRequested := rfl
  inPlace _ _ := nofun
  reads past _ _ _ _ _ split := by simp [Journal.start] at split

/-- A write puts its value in place; any other command leaves the corrections as they are. -/
private theorem get_obey (command : Command ℝ) (offsets : PerChannel (Phasor ℝ))
    (channel : Channel) :
    (obey command offsets).get channel =
      ((Event.write? (η := Unit) .dcOffset .tx channel (.commanded command (.ok ()))).map
        Prod.fst).getD (offsets.get channel) := by
  cases command with
  | dcOffset direction channel' value =>
      cases direction <;> cases channel <;> cases channel' <;> rfl
  | iqBalance direction channel' value => simp [obey, Event.write?]
  | _ => rfl

variable {journal : Journal (Hosted (PerChannel (Phasor ℝ))) Unit ℝ}

theorem Faithful.command (faithful : Faithful target journal) (command : Command ℝ) :
    Faithful target
      ⟨{ journal.world with device := obey command journal.world.device },
        journal.events ++ [.commanded command (.ok ())]⟩ where
  clock := faithful.clock
  stopRequested := faithful.stopRequested
  inPlace channel value written := by
    rw [lastWrite_append, lastWrite, List.filterMap_cons, List.filterMap_nil] at written
    rw [get_obey]
    rcases own : Event.write? (η := Unit) .dcOffset .tx channel (.commanded command (.ok ()))
      with _ | last <;> rw [own] at written
    · exact faithful.inPlace channel value written
    · cases written
      rfl
  reads past stream rooms wait delivery future split := by
    rcases split_concat split with ⟨-, other⟩ | ⟨between, earlier⟩
    · cases other
    · exact faithful.reads past stream rooms wait delivery between earlier

/-- An event that writes no correction changes nothing. A read must show the corrections
in place. -/
theorem Faithful.concat (faithful : Faithful target journal) {event : Event Unit ℝ}
    (silent : ∀ channel, event.write? .dcOffset .tx channel = none)
    (reads : ∀ stream rooms wait delivery, event = .read stream rooms wait (.ok delivery) →
      Reads target journal.events delivery) :
    Faithful target ⟨journal.world, journal.events ++ [event]⟩ where
  clock := faithful.clock
  stopRequested := faithful.stopRequested
  inPlace channel value written := by
    rw [lastWrite_append_of_forall (List.forall_mem_singleton.mpr (silent channel))] at written
    exact faithful.inPlace channel value written
  reads past stream rooms wait delivery future split := by
    rcases split_concat split with ⟨rfl, last⟩ | ⟨between, earlier⟩
    · exact reads stream rooms wait delivery last
    · exact faithful.reads past stream rooms wait delivery between earlier

theorem Faithful.reads_delivery (faithful : Faithful target journal) :
    Reads target journal.events (delivery target journal.world.device) := by
  intro channel value written
  rw [← faithful.inPlace channel value written]
  refine ⟨rfl, ?_⟩
  cases channel <;> rfl

/-- A gauge behind a journal is reliable. -/
theorem reliable : (Journal.rig (rig target)).Reliable (Faithful target) 2 where
  command command _ faithful := faithful.command command
  activate stream count journal faithful := by
    change Faithful target ⟨journal.world, journal.events ++ [.activated stream count (.ok ())]⟩
    exact faithful.concat (fun _ => rfl) fun _ _ _ _ => nofun
  read stream room wait _ within journal faithful := by
    refine ⟨within, faithful.concat (fun _ => rfl) ?_⟩
    rintro _ _ _ _ ⟨⟩
    exact faithful.reads_delivery
  now journal faithful := ⟨faithful.clock, faithful⟩
  stopRequested journal faithful := by
    change (journal.world.stopRequested || false) = false
    rw [faithful.stopRequested, Bool.or_self]
  note trial journal faithful := faithful.concat (fun _ => rfl) fun _ _ _ _ => nofun

end Log

section Levels

variable {target : Phasor ℝ}

private theorem exists_journaled (target : Phasor ℝ) : ∃ outcome after,
    Calibration.journaled (rig target) config Config.parkingFrequency () start =
        (.ok outcome, after) ∧
      Faithful target after.world :=
  Calibration.exists_outcome reliable fits Config.parkingFrequency () faithful_start

/-- A calibration with a gauge gives an outcome. -/
theorem exists_outcome (target : Phasor ℝ) : ∃ outcome after,
    Calibration.calibrate (rig target) config Config.parkingFrequency () start =
      (.ok outcome, after) := by
  obtain ⟨outcome, after, run, -⟩ := exists_journaled target
  exact ⟨outcome, after.map Journal.world, by rw [Calibration.calibrate_eq_journaled, run]⟩

/-- The reads in the log of a calibration show the corrections written before them. -/
private theorem reads_journal {past future : List (Event Unit ℝ)} {stream : Unit}
    {rooms : List Nat} {wait : Duration} {delivery : Delivery ℝ}
    (split : Calibration.journal (rig target) config Config.parkingFrequency () start =
      past ++ .read stream rooms wait (.ok delivery) :: future) :
    Reads target past delivery := by
  obtain ⟨outcome, after, run, faithful⟩ := exists_journaled target
  rw [Calibration.journal, run] at split
  exact faithful.reads past stream rooms wait delivery future split

/-- Whether nothing was captured on a channel yet, or just one period. -/
private def Holds (strength : ℝ) (channel : Channel) (raw : RawCapture ℝ) : Prop :=
  (raw.size = 0 ∧ raw.channels.get channel = #[]) ∨
    (raw.size = 2 ∧ raw.channels.get channel = period strength)

private theorem Holds.gather {strength : ℝ} {channel : Channel} {raw : RawCapture ℝ}
    (holds : Holds strength channel raw) {event : Event Unit ℝ}
    (brings : ∀ stream rooms wait delivery, event = .read stream rooms wait (.ok delivery) →
      Brings strength channel delivery) :
    Holds strength channel (raw.gather 2 event) := by
  unfold RawCapture.gather
  split
  · rename_i stream rooms wait delivery
    obtain ⟨count, taken⟩ := brings stream rooms wait delivery rfl
    have channels : ∀ more, (raw.append delivery more).channels.get channel =
        raw.channels.get channel ++ delivery.taken channel.index more := by
      intro more
      cases channel <;> rfl
    rcases holds with ⟨size, empty⟩ | ⟨size, full⟩
    · refine .inr ⟨by rw [RawCapture.size_append, size, count]; rfl, ?_⟩
      rw [channels, size, count, empty, Array.empty_append]
      exact taken
    · refine .inr ⟨by rw [RawCapture.size_append, size, count]; rfl, ?_⟩
      have nothing : delivery.taken channel.index (min 2 (2 - 2)) = #[] :=
        Array.eq_empty_of_size_eq_zero (Delivery.size_taken _ _ _)
      rw [channels, size, count, full, nothing, Array.append_empty]
  · exact holds

private theorem holds_foldl {strength : ℝ} {channel : Channel} {events : List (Event Unit ℝ)}
    (brings : ∀ event ∈ events, ∀ stream rooms wait delivery,
      event = .read stream rooms wait (.ok delivery) → Brings strength channel delivery)
    {raw : RawCapture ℝ} (holds : Holds strength channel raw) :
    Holds strength channel (events.foldl (.gather 2) raw) := by
  induction events generalizing raw with
  | nil => exact holds
  | cons event rest ih =>
      exact ih (fun later member => brings later (List.mem_cons_of_mem _ member))
        (holds.gather (brings event List.mem_cons_self))

/-- A period has no mean. -/
private theorem removeMean_period (strength : ℝ) :
    Samples.removeMean .stored (period strength) = period strength := by
  have mean : Samples.mean (period strength) = .zero := by
    change Phasor.mk ((0 + strength + -strength) / (2 : ℕ)) ((0 + 0 + 0) / (2 : ℕ)) = .mk 0 0
    norm_num
  have kept : ∀ sample : Phasor ℝ, Phasor.stored (sample - Phasor.stored .zero) = sample :=
    fun sample => congrArg₂ Phasor.mk (sub_zero sample.re) (sub_zero sample.im)
  unfold Samples.removeMean
  rw [if_neg (by simp [period]), mean]
  simp only [kept, Array.map_id']

/-- The mixer turns by half a turn from one sample to the next. -/
private theorem mixerStep_config :
    Tone.mixerStep config.txDelta config.sampleRate = -Real.pi := by
  change -(1 + 1) * Real.pi * 5000000 / ((10000000 : ℕ) : ℝ) = -Real.pi
  push_cast
  ring

/-- Both samples of a period add to its tone. -/
private theorem mix_period (strength : ℝ) :
    ((period strength).foldl (Tone.mix (-Real.pi)) (.zero, 0)).1 = ⟨2 * strength, 0⟩ := by
  have first : (Phasor.ofPolar 1 (-Real.pi * (0 : ℕ)) : Phasor ℝ) = ⟨1, 0⟩ := by
    change Phasor.mk (1 * Real.cos (-Real.pi * (0 : ℕ))) (1 * Real.sin (-Real.pi * (0 : ℕ))) = _
    simp
  have second : (Phasor.ofPolar 1 (-Real.pi * (1 : ℕ)) : Phasor ℝ) = ⟨-1, 0⟩ := by
    change Phasor.mk (1 * Real.cos (-Real.pi * (1 : ℕ))) (1 * Real.sin (-Real.pi * (1 : ℕ))) = _
    simp
  change Phasor.zero + Phasor.mk strength 0 * .ofPolar 1 (-Real.pi * (0 : ℕ)) +
    Phasor.mk (-strength) 0 * .ofPolar 1 (-Real.pi * (1 : ℕ)) = _
  rw [first, second]
  change Phasor.mk (0 + (strength * 1 - 0 * 0) + (-strength * -1 - 0 * 0))
    (0 + (strength * 0 + 0 * 1) + (-strength * 0 + 0 * -1)) = _
  congr 1 <;> ring

/-- The tone of a period is as strong as the period is. -/
private theorem level_period {strength : ℝ} (positive : 0 ≤ strength) :
    Tone.level (period strength) config.txDelta config.sampleRate =
      Tone.levelOfMagnitude strength := by
  have amplitude : Tone.amplitude (period strength) config.txDelta config.sampleRate =
      ⟨strength, 0⟩ := by
    rw [Tone.amplitude, if_neg (by simp [period]), mixerStep_config]
    dsimp only
    rw [mix_period]
    change Phasor.mk (2 * strength / (2 : ℕ)) (0 / (2 : ℕ)) = _
    congr 1 <;> push_cast <;> ring
  have magnitude : (Phasor.mk strength 0).magnitude = strength := by
    change Real.sqrt (strength ^ 2 + 0 ^ 2) = strength
    rw [zero_pow two_ne_zero, add_zero, Real.sqrt_sq positive]
  rw [Tone.level, amplitude, magnitude]

/-- From one on, levels grow with the magnitude. -/
theorem strictMonoOn_level :
    StrictMonoOn (fun square : ℝ => Tone.levelOfMagnitude (1 + square)) (Set.Ici 0) := by
  have above : ∀ square : ℝ, 0 ≤ square →
      Tone.levelOfMagnitude (1 + square) = (20 : ℕ) * Real.logb 10 (1 + square) := by
    intro square positive
    have floor : (Tone.magnitudeFloor : ℝ) ≤ 1 := by
      change ((1 : ℕ) / ((10 ^ 20 : ℕ) : ℝ)) ≤ 1
      norm_num
    rw [Tone.levelOfMagnitude, Arithmetic.larger, if_pos (Exact.isNumber_eq_true _),
      if_neg (by linarith)]
    rfl
  intro first low second high less
  have grows := Real.logb_lt_logb (b := 10) (by norm_num) (by linarith [Set.mem_Ici.mp low])
    (add_lt_add_right less 1)
  simp only [above first low, above second high]
  exact mul_lt_mul_of_pos_left grows (by norm_num)

/-- **A gauge measures the distance.** What is offered to the offset search is the level of
the tone at the correction that it is offered with. -/
theorem level_of_mem_offers {channel : Channel} {offer : Offer ℝ}
    (member : offer ∈ Search.transmitDc.offers channel
      (Calibration.journal (rig target) config Config.parkingFrequency () start)) :
    offer.level = Tone.levelOfMagnitude (strength target offer.candidate) := by
  obtain ⟨past, trial, future, split, offered⟩ := Search.exists_trial_of_mem_offers member
  obtain ⟨⟨before, burst, block, rfl, captures, shows⟩, -⟩ :=
    Calibration.sound_journal (rig target) config Config.parkingFrequency () start past trial
      future split
  have stands := captures.stands_candidate offered before
  have brings : ∀ event ∈ burst, ∀ stream rooms wait delivery,
      event = .read stream rooms wait (.ok delivery) →
        Brings (strength target offer.candidate) channel delivery := by
    rintro _ served stream rooms wait delivery rfl
    obtain ⟨part, rest, rfl⟩ := List.append_of_mem served
    have place : Calibration.journal (rig target) config Config.parkingFrequency () start =
        before ++ Event.issued trial.commands ++ part ++
          .read stream rooms wait (.ok delivery) :: (rest ++ .tried trial :: future) := by
      simpa using split
    exact reads_journal place channel _ (stands part (List.prefix_append _ _))
  have samples : block.samples channel = period (strength target offer.candidate) := by
    have empty : Holds (strength target offer.candidate) channel .empty :=
      .inl ⟨rfl, by cases channel <;> rfl⟩
    rcases holds_foldl brings empty with ⟨none, -⟩ | ⟨-, full⟩
    · exact absurd (none.symm.trans captures.complete) (by decide)
    · rw [captures.block_eq, SampleBlock.samples, RawCapture.block, SampleBlock.ofRaw,
        PerChannel.get_map]
      exact (congrArg _ full).trans (removeMean_period _)
  have positive : 0 ≤ strength target offer.candidate :=
    add_nonneg zero_le_one (add_nonneg (mul_self_nonneg _) (mul_self_nonneg _))
  rw [shows .transmitDc channel offer offered, samples]
  exact (congrArg (Tone.level _ · config.sampleRate) (PerChannel.get_both _ _)).trans
    (level_period positive)

end Levels

end Gauge

end LoopbackCalibration
