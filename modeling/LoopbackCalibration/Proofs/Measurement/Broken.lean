import LoopbackCalibration.Proofs.Scalar.Extended
import LoopbackCalibration.Search.Tracker
import LoopbackCalibration.Tone

/-! # Broken captures

A capture is broken on a channel when one of its samples there is not finite. Taking off
the mean turns that sample into no number, and mixing spreads it over the whole amplitude.
The magnitude floor then hides it: the level comes out as the floor level, the lowest
level there is. So an offer with that level is taken unless the tracker holds a level that
is at the floor or below it already.
-/

namespace LoopbackCalibration

open Arithmetic

variable {α : Type} [Scalar α]

/-- The level of the magnitude floor. -/
def Tone.floorLevel : α :=
  ofCount 20 * Scalar.log10 Tone.magnitudeFloor

namespace Samples

/-- The sum's real part is the running sum of the real parts. -/
theorem re_sum (samples : Array (Phasor α)) :
    (sum samples).re = samples.toList.foldl (fun total sample => total + sample.re) 0 := by
  rw [sum, ← Array.foldl_toList]
  exact (List.foldl_hom Phasor.re fun _ _ => rfl).symm

/-- The sum's imaginary part is the running sum of the imaginary parts. -/
theorem im_sum (samples : Array (Phasor α)) :
    (sum samples).im = samples.toList.foldl (fun total sample => total + sample.im) 0 := by
  rw [sum, ← Array.foldl_toList]
  exact (List.foldl_hom Phasor.im fun _ _ => rfl).symm

variable [Scalar.Special α]

/-- Taking off the mean leaves no number where a sample was not finite. -/
theorem exists_not_isNumber_removeMean {samples : Array (Phasor α)}
    (broken : ∃ sample ∈ samples, sample.isFinite = false) :
    ∃ sample ∈ removeMean .stored samples,
      isNumber sample.re = false ∨ isNumber sample.im = false := by
  obtain ⟨sample, member, broken⟩ := broken
  have nonempty : samples.isEmpty = false := by
    simp only [Array.isEmpty_eq_false_iff]
    rintro rfl
    exact Array.not_mem_empty sample member
  refine ⟨.stored (sample - .stored (mean samples)), ?_, ?_⟩
  · simp only [removeMean, nonempty, Bool.false_eq_true, if_false]
    exact Array.mem_map.mpr ⟨sample, member, rfl⟩
  · have listed := Array.mem_toList_iff.mpr member
    rcases Bool.and_eq_false_iff.mp broken with real | imaginary
    · refine .inl (Bool.eq_false_iff.mpr fun number => ?_)
      have swamps := ((Swamps.foldl listed real 0).divide samples.size).stored
      rw [← re_sum] at swamps
      exact Bool.eq_false_iff.mp swamps.isNumber_sub (Scalar.Special.isNumber_stored number)
    · refine .inr (Bool.eq_false_iff.mpr fun number => ?_)
      have swamps := ((Swamps.foldl listed imaginary 0).divide samples.size).stored
      rw [← im_sum] at swamps
      exact Bool.eq_false_iff.mp swamps.isNumber_sub (Scalar.Special.isNumber_stored number)

end Samples

namespace Tone

variable [Scalar.Special α]

/-- A sum with a lost term is lost. -/
private theorem lost_add {left right : Phasor α} (lost : left.Lost ∨ right.Lost) :
    (left + right).Lost := by
  refine ⟨Bool.eq_false_iff.mpr fun number => ?_, Bool.eq_false_iff.mpr fun number => ?_⟩ <;>
    have numbers := Scalar.Special.isNumber_add number
  · exact lost.elim (fun lost => Bool.eq_false_iff.mp lost.1 numbers.1)
      fun lost => Bool.eq_false_iff.mp lost.1 numbers.2
  · exact lost.elim (fun lost => Bool.eq_false_iff.mp lost.2 numbers.1)
      fun lost => Bool.eq_false_iff.mp lost.2 numbers.2

/-- Each part of a product draws on both parts of its factors. -/
private theorem lost_mul {sample : Phasor α}
    (broken : isNumber sample.re = false ∨ isNumber sample.im = false) (rotation : Phasor α) :
    (sample * rotation).Lost := by
  have parts : isNumber sample.re → isNumber sample.im → False := by
    simpa [imp_iff_not_or, Bool.not_eq_true] using broken
  refine ⟨Bool.eq_false_iff.mpr fun number => ?_, Bool.eq_false_iff.mpr fun number => ?_⟩
  · obtain ⟨first, second⟩ := Scalar.Special.isNumber_sub number
    exact parts (Scalar.Special.isNumber_mul first).1 (Scalar.Special.isNumber_mul second).1
  · obtain ⟨first, second⟩ := Scalar.Special.isNumber_add number
    exact parts (Scalar.Special.isNumber_mul first).1 (Scalar.Special.isNumber_mul second).1

/-- Mixing loses the whole sum at a sample that is not a number, and never recovers it. -/
private theorem lost_mix (step : α) (samples : List (Phasor α)) (state : Phasor α × Nat)
    (broken : state.1.Lost ∨
      ∃ sample ∈ samples, isNumber sample.re = false ∨ isNumber sample.im = false) :
    (samples.foldl (mix step) state).1.Lost := by
  induction samples generalizing state with
  | nil => simpa using broken
  | cons first rest hypothesis =>
      apply hypothesis (mix step state first)
      rcases broken with lost | ⟨sample, member, broken⟩
      · exact .inl (lost_add (.inl lost))
      · rcases List.mem_cons.mp member with rfl | member
        · exact .inl (lost_add (.inr (lost_mul broken _)))
        · exact .inr ⟨sample, member, broken⟩

/-- One sample that is not a number loses the amplitude of the tone. -/
theorem lost_amplitude {samples : Array (Phasor α)}
    (broken : ∃ sample ∈ samples, isNumber sample.re = false ∨ isNumber sample.im = false)
    (frequency rate : α) : (amplitude samples frequency rate).Lost := by
  obtain ⟨sample, member, broken⟩ := broken
  have nonempty : samples.isEmpty = false := by
    simp only [Array.isEmpty_eq_false_iff]
    rintro rfl
    exact Array.not_mem_empty sample member
  have lost := lost_mix (mixerStep frequency rate) samples.toList (.zero, 0)
    (.inr ⟨sample, Array.mem_toList_iff.mpr member, broken⟩)
  rw [Array.foldl_toList] at lost
  simp only [amplitude, nonempty, Bool.false_eq_true, if_false]
  exact ⟨Bool.eq_false_iff.mpr fun number =>
      Bool.eq_false_iff.mp lost.1 (Scalar.Special.isNumber_div number),
    Bool.eq_false_iff.mpr fun number =>
      Bool.eq_false_iff.mp lost.2 (Scalar.Special.isNumber_div number)⟩

/-- The floor hides an amplitude that is lost. -/
theorem levelOfMagnitude_eq_floorLevel {amplitude : Phasor α} (lost : amplitude.Lost) :
    levelOfMagnitude amplitude.magnitude = floorLevel := by
  have unnumbered : isNumber amplitude.magnitude = false := by
    apply Bool.eq_false_iff.mpr
    intro number
    exact (Scalar.Special.isNumber_hypot number).elim (Bool.eq_false_iff.mp lost.1)
      (Bool.eq_false_iff.mp lost.2)
  simp only [levelOfMagnitude, floorLevel, larger, unnumbered, Bool.false_eq_true, if_false]

/-- The level of a capture that is broken on a channel is the floor level. -/
theorem level_eq_floorLevel {raw : PerChannel (Array (Phasor α))}
    {sameSize : raw.a.size = raw.b.size} {channel : Channel}
    (broken : ∃ sample ∈ raw.get channel, sample.isFinite = false) (frequency rate : α) :
    level ((SampleBlock.ofRaw raw sameSize).samples channel) frequency rate = floorLevel := by
  rw [SampleBlock.samples, SampleBlock.ofRaw, PerChannel.get_map]
  exact levelOfMagnitude_eq_floorLevel
    (lost_amplitude (Samples.exists_not_isNumber_removeMean broken) frequency rate)

end Tone

namespace SearchState

/-- An offer that does not improve a channel changes nothing. -/
private theorem offer_eq_self {state : SearchState α} {channel : Channel} {level : α}
    {candidate : Phasor α} (rejected : state.improvedBy channel level = false) :
    state.offer channel candidate level = state := by
  have kept : (state.best.get channel).offer candidate level = state.best.get channel :=
    if_neg (Bool.eq_false_iff.mp rejected)
  rw [offer, kept]
  cases channel <;> rfl

variable [Scalar.Special α]

/-- **Broken captures and the search.** An offer with the level of a capture that is broken
on its channel leaves the state as it is exactly when the channel holds a level that the
floor level is not below. Otherwise the candidate becomes the best, at the floor level. -/
theorem broken_capture_rejected_iff (state : SearchState α) (channel : Channel)
    (candidate : Phasor α) (raw : PerChannel (Array (Phasor α)))
    (sameSize : raw.a.size = raw.b.size)
    (broken : ∃ sample ∈ raw.get channel, sample.isFinite = false)
    (frequency rate : α) (floor : belowInfinity (Tone.floorLevel : α)) :
    let level := Tone.level ((SampleBlock.ofRaw raw sameSize).samples channel) frequency rate
    let best := state.best.get channel
    let guarded := ∃ lowest, best.level = some lowest ∧ ¬Tone.floorLevel < lowest
    (state.improvedBy channel level = false ∧ state.offer channel candidate level = state ↔
      guarded) ∧
    (¬guarded → state.improvedBy channel level = true ∧
      (state.offer channel candidate level).best.get channel =
        ⟨candidate, some Tone.floorLevel, best.updates + 1⟩) := by
  intro level best guarded
  have floored : level = Tone.floorLevel := Tone.level_eq_floorLevel broken frequency rate
  have improved : state.improvedBy channel level = false ↔ guarded := by
    rw [floored]
    change best.improvedBy Tone.floorLevel = false ↔
      ∃ lowest, best.level = some lowest ∧ ¬Tone.floorLevel < lowest
    cases held : best.level with
    | none => simp [BestTracker.improvedBy, held, floor]
    | some lowest => simp [BestTracker.improvedBy, held]
  refine ⟨⟨fun rejected => improved.mp rejected.1, fun holds => ?_⟩, fun unguarded => ?_⟩
  · exact ⟨improved.mpr holds, offer_eq_self (improved.mpr holds)⟩
  · have taken : best.improvedBy level = true :=
      (Bool.not_eq_false _).mp (mt improved.mp unguarded)
    refine ⟨taken, ?_⟩
    rw [offer, PerChannel.get_set_same]
    change best.offer candidate level = _
    rw [BestTracker.offer, if_pos taken, floored]

end SearchState

namespace Broken

/-- Two samples on each channel; the first has no number for its real part. -/
def capture : PerChannel (Array (Phasor Extended)) :=
  .both #[⟨.nan, .finite 0⟩, ⟨.finite 0, .finite 0⟩]

/-- The capture is broken on both channels. -/
theorem exists_broken_sample (channel : Channel) :
    ∃ sample ∈ capture.get channel, sample.isFinite = false :=
  ⟨⟨.nan, .finite 0⟩, by simp [capture], by simp [Phasor.isFinite]⟩

/-- The floor lies four hundred decibels below full scale. -/
theorem floorLevel_eq : (Tone.floorLevel : Extended) = .finite (-400) := by
  have divisor : ((10 ^ 20 : ℕ) : ℝ) ≠ 0 := by norm_num
  have magnitude : (Tone.magnitudeFloor : Extended) = .finite (10 ^ (-20 : ℝ)) := by
    refine (if_neg divisor).trans (congrArg Extended.finite ?_)
    rw [Real.rpow_neg (by norm_num)]
    norm_num
  have positive : (0 : ℝ) < 10 ^ (-20 : ℝ) := by positivity
  have logarithm : Scalar.log10 (Tone.magnitudeFloor : Extended) = .finite (-20) := by
    rw [magnitude]
    refine (if_neg positive.not_gt).trans ((if_neg positive.ne').trans ?_)
    exact congrArg Extended.finite (Real.logb_rpow (by norm_num) (by norm_num))
  rw [Tone.floorLevel, logarithm]
  apply congrArg Extended.finite
  norm_num

theorem belowInfinity_floorLevel : belowInfinity (Tone.floorLevel : Extended) := by
  rw [floorLevel_eq]
  exact Extended.belowInfinity_finite _

/-- The level of the capture on a channel. -/
noncomputable def level (channel : Channel) : Extended :=
  Tone.level ((SampleBlock.ofRaw capture rfl).samples channel) (.finite 1) (.finite 4)

/-- A state that holds the floor level on both channels. -/
noncomputable def floored : SearchState Extended :=
  ⟨.iqBalance, .both ⟨.zero, some (.finite (-400)), 1⟩⟩

end Broken

namespace SearchState

open Broken

/-- The capture is kept out where the floor level is held, and taken at first. -/
theorem broken_capture_rejected_iff_floored :
    (belowInfinity (Tone.floorLevel : Extended) ∧
      ∃ sample ∈ capture.get .a, sample.isFinite = false) ∧
    (floored.improvedBy .a (level .a) = false ∧ floored.offer .a .one (level .a) = floored) ∧
    ((initial .iqBalance).improvedBy .a (level .a) = true ∧
      ((initial .iqBalance).offer .a .one (level .a)).best.get .a =
        ⟨.one, some Tone.floorLevel, 1⟩) := by
  refine ⟨⟨belowInfinity_floorLevel, exists_broken_sample .a⟩, ?_, ?_⟩
  · refine (broken_capture_rejected_iff floored .a .one capture rfl (exists_broken_sample .a)
      (.finite 1) (.finite 4) belowInfinity_floorLevel).1.mpr ⟨.finite (-400), rfl, ?_⟩
    rw [floorLevel_eq]
    exact lt_irrefl (-400 : ℝ)
  · refine (broken_capture_rejected_iff (initial .iqBalance) .a .one capture rfl
      (exists_broken_sample .a) (.finite 1) (.finite 4) belowInfinity_floorLevel).2 ?_
    rintro ⟨lowest, held, -⟩
    exact absurd held nofun

/-- The capture is offered first, and the offer is taken. -/
theorem broken_capture_taken :
    ¬((initial .iqBalance).improvedBy .a (level .a) = false ∧
      (initial .iqBalance).offer .a .one (level .a) = initial .iqBalance) := by
  rintro ⟨rejected, -⟩
  have floor : level .a = Tone.floorLevel :=
    Tone.level_eq_floorLevel (exists_broken_sample .a) _ _
  rw [floor] at rejected
  exact Bool.false_ne_true (rejected.symm.trans belowInfinity_floorLevel)

end SearchState

end LoopbackCalibration
