import LoopbackCalibration.Proofs.Spectrum.Levels
import LoopbackCalibration.Proofs.Spectrum.Window

/-! # The normalisation of spectra

The levels of a spectrum are taken relative to the power of the window. With exact arithmetic every
capture of finite samples has finite levels, except in frames of two samples, where the window has
no power and every level is infinite (`Spectrum.normalised_iff`).
-/

namespace LoopbackCalibration

open Arithmetic

namespace Phasor

open Extended

theorem isFinite_iff {value : Phasor Extended} :
    value.isFinite ↔ ∃ re im, value = ⟨finite re, finite im⟩ := by
  obtain ⟨re, im⟩ := value
  simp only [Phasor.isFinite, Bool.and_eq_true, Extended.isFinite_iff, Phasor.mk.injEq]
  exact ⟨fun ⟨⟨first, re_eq⟩, second, im_eq⟩ => ⟨first, second, re_eq, im_eq⟩,
    fun ⟨first, second, re_eq, im_eq⟩ => ⟨⟨first, re_eq⟩, second, im_eq⟩⟩

variable {first second : Phasor Extended}

/-- An operation that is exact on finite phasors. -/
private theorem isFinite_of_exact {operation : Phasor Extended → Phasor Extended → Phasor Extended}
    (exact : ∀ re im re' im', ∃ first second,
      operation ⟨finite re, finite im⟩ ⟨finite re', finite im'⟩ = ⟨finite first, finite second⟩)
    (left : first.isFinite) (right : second.isFinite) : (operation first second).isFinite := by
  obtain ⟨re, im, rfl⟩ := isFinite_iff.mp left
  obtain ⟨re', im', rfl⟩ := isFinite_iff.mp right
  exact isFinite_iff.mpr (exact re im re' im')

theorem isFinite_add (left : first.isFinite) (right : second.isFinite) :
    (first + second).isFinite :=
  isFinite_of_exact (fun _ _ _ _ => ⟨_, _, rfl⟩) left right

theorem isFinite_sub (left : first.isFinite) (right : second.isFinite) :
    (first - second).isFinite :=
  isFinite_of_exact (fun _ _ _ _ => ⟨_, _, rfl⟩) left right

theorem isFinite_mul (left : first.isFinite) (right : second.isFinite) :
    (first * second).isFinite :=
  isFinite_of_exact (fun _ _ _ _ => ⟨_, _, rfl⟩) left right

theorem isFinite_scale (left : first.isFinite) (factor : ℝ) :
    (first.scale (finite factor)).isFinite := by
  obtain ⟨_, _, rfl⟩ := isFinite_iff.mp left
  exact isFinite_iff.mpr ⟨_, _, rfl⟩

theorem isFinite_zero : (zero : Phasor Extended).isFinite := isFinite_iff.mpr ⟨0, 0, rfl⟩

end Phasor

namespace Fourier

open Extended

/-- Every sample is finite, also where there is none. -/
def Finite (samples : Array (Phasor Extended)) : Prop :=
  ∀ index, (samples.getD index .zero).isFinite

theorem finite_of_forall_mem {samples : Array (Phasor Extended)}
    (each : ∀ sample ∈ samples, sample.isFinite) : Finite samples := by
  intro index
  unfold Array.getD
  split
  · exact each _ (Array.getElem_mem _)
  · exact Phasor.isFinite_zero

theorem finite_ofFn {size : Nat} {sample : Fin size → Phasor Extended}
    (each : ∀ index, (sample index).isFinite) : Finite (Array.ofFn sample) := by
  refine finite_of_forall_mem fun value member => ?_
  obtain ⟨index, rfl⟩ := Array.mem_ofFn.mp member
  exact each index

private theorem rotation_finite {size : Nat} (positive : 0 < size) (turns : Nat) :
    (rotation size turns : Phasor Extended).isFinite := by
  have angle : (-two * Scalar.pi * ofCount turns / ofCount size : Extended) =
      finite (-two * Scalar.pi * ofCount turns / ofCount size) :=
    finite_div _ (Nat.cast_ne_zero.mpr positive.ne')
  unfold rotation
  rw [angle]
  exact Phasor.isFinite_iff.mpr ⟨_, _, rfl⟩

private theorem partialCoefficient_finite {turns samples : Array (Phasor Extended)}
    (rotates : Finite turns) (sound : Finite samples) (index position : Nat) :
    (partialCoefficient turns samples index position).isFinite := by
  induction position with
  | zero => exact Phasor.isFinite_zero
  | succ position ih =>
      unfold partialCoefficient
      refine Phasor.isFinite_add ih ?_
      split_ifs
      · exact sound position
      · exact Phasor.isFinite_mul (sound position) (rotates _)

private theorem direct_finite {size : Nat} {samples : Array (Phasor Extended)}
    (sound : Finite samples) : Finite (direct size samples) :=
  finite_ofFn fun index => partialCoefficient_finite
    (finite_ofFn fun turns => rotation_finite (Nat.zero_lt_of_lt turns.isLt) turns) sound index size

private theorem turnBack_finite {size turns : Nat} {sample : Phasor Extended} (positive : 0 < size)
    (sound : sample.isFinite) : (turnBack size turns sample).isFinite := by
  unfold turnBack
  split_ifs
  · exact sound
  · obtain ⟨_, _, rfl⟩ := Phasor.isFinite_iff.mp sound
    exact Phasor.isFinite_iff.mpr ⟨_, _, rfl⟩
  · exact Phasor.isFinite_mul sound (rotation_finite positive turns)

private theorem join_finite {half : Nat} {evens odds : Array (Phasor Extended)}
    (first : Finite evens) (second : Finite odds) : Finite (join half evens odds) := by
  have turned : Finite (Array.ofFn fun index : Fin half =>
      turnBack (2 * half) index (odds.getD index .zero)) :=
    finite_ofFn fun index => turnBack_finite (by have := index.isLt; omega) (second index)
  refine finite_ofFn fun index => ?_
  split_ifs
  · exact Phasor.isFinite_add (first _) (turned _)
  · exact Phasor.isFinite_sub (first _) (turned _)

/-- Finite samples have finite coefficients. -/
theorem transform_finite {size : Nat} {samples : Array (Phasor Extended)}
    (sound : Finite samples) : Finite (transform size samples) := by
  induction size, samples using transform.induct with
  | case1 size samples splits half evens odds =>
      unfold transform
      rw [if_pos splits]
      exact join_finite (evens (finite_ofFn fun _ => sound _)) (odds (finite_ofFn fun _ => sound _))
  | case2 size samples single =>
      unfold transform
      rw [if_neg single]
      exact direct_finite sound

end Fourier

namespace Spectrum

open Extended

private theorem log10_count {count : Nat} (positive : 0 < count) :
    Scalar.log10 (ofCount count : Extended) = finite (Scalar.log10 (count : ℝ)) :=
  log10_finite (Nat.cast_pos.mpr positive)

theorem reference_finite {size : Nat} (positive : 0 < size) (long : size ≠ 2) :
    (reference (Window.hann size) : Extended) = finite (reference (Window.hann size)) := by
  have power : 0 < (Window.power (Window.hann size) : ℝ) :=
    (Window.power_hann_pos_iff size).mpr ⟨positive.ne', long⟩
  unfold reference
  rw [Window.size_hann, Window.size_hann, log10_count positive, Window.hann_finite,
    Window.power_finite, log10_finite power]
  rfl

/-- Of a window without power the logarithm is the negative infinity. -/
theorem reference_two : (reference (Window.hann 2) : Extended) = infinite true := by
  have powerless : (Window.power (Window.hann 2) : ℝ) = 0 :=
    le_antisymm (not_lt.mp fun power => ((Window.power_hann_pos_iff 2).mp power).2 rfl)
      (Window.power_nonneg _)
  have void : Scalar.log10 (finite 0) = infinite true := (if_neg (lt_irrefl 0)).trans (if_pos rfl)
  unfold reference
  rw [Window.size_hann, log10_count two_pos, Window.hann_finite, Window.power_finite, powerless,
    void, ofCount_mul_infinite (by omega)]
  rfl

private theorem levelOfMagnitude_finite (magnitude : ℝ) :
    ∃ level, Tone.levelOfMagnitude (finite magnitude) = finite level := by
  have floor : (Tone.magnitudeFloor : Extended) = finite (1 / (10 ^ (20 : Nat) : ℕ)) := by
    refine (finite_div _ (by norm_num)).trans ?_
    rw [Nat.cast_one]
  have least : (0 : ℝ) < 1 / (10 ^ (20 : Nat) : ℕ) := by positivity
  have raised : ∃ value, 0 < value ∧
      larger (finite magnitude) Tone.magnitudeFloor = finite value := by
    rw [floor, larger, if_pos (isNumber_finite magnitude)]
    split_ifs with below
    · exact ⟨_, least, rfl⟩
    · exact ⟨_, least.trans_le (not_lt.mp below), rfl⟩
  obtain ⟨value, positive, value_eq⟩ := raised
  unfold Tone.levelOfMagnitude
  rw [value_eq, log10_finite positive]
  exact ⟨_, rfl⟩

variable {samples : Array (Phasor Extended)} {size : Nat}

private theorem frame_finite (sound : Fourier.Finite samples) (weights : Array ℝ) (start : Nat) :
    Fourier.Finite (frame (weights.map finite) samples start) := by
  refine Fourier.finite_ofFn fun index => ?_
  rw [Fin.getElem_fin, Array.getElem_map]
  exact Phasor.isFinite_scale (sound _) _

/-- The power of a bin is taken from a finite level, whatever the reference is. -/
private theorem framePowers_of_level (sound : Fourier.Finite samples) (offset : Extended)
    (start : Nat) : ∀ power ∈ framePowers (Window.hann size) offset samples start,
      ∃ level : ℝ, power = Scalar.exp10 ((finite level - offset) / ofCount 10) := by
  intro power member
  rw [Window.hann_finite] at member
  obtain ⟨index, rfl⟩ := Array.mem_ofFn.mp member
  have transformed : Fourier.Finite (Fourier.transform ((Window.hann size).map finite).size
      (frame ((Window.hann size).map finite) samples start)) :=
    Fourier.transform_finite (frame_finite sound (Window.hann size) start)
  obtain ⟨re, im, bin_eq⟩ := Phasor.isFinite_iff.mp
    (transformed (reorder ((Window.hann size).map finite).size index))
  obtain ⟨level, level_eq⟩ := levelOfMagnitude_finite (Scalar.hypot re im)
  refine ⟨level, ?_⟩
  rw [bin_eq, ← level_eq]
  rfl

private theorem levels_finite (positive : 0 < size) (long : size ≠ 2)
    (sound : Fourier.Finite samples) {frames : Nat} (taken : 0 < frames) :
    ∀ power ∈ sumPowers (Window.hann size) samples frames,
      isFinite (ofCount 10 * Scalar.log10 (power / ofCount frames)) := by
  have count : (0 : ℝ) < frames := Nat.cast_pos.mpr taken
  have sums : ∀ power ∈ sumPowers (Window.hann size) samples frames,
      ∃ value, 0 < value ∧ power = finite value := by
    refine forall_mem_sumPowers taken ?_ ?_ fun first power member => ?_
    · rintro _ ⟨value, above, rfl⟩
      exact ⟨_, add_pos_of_nonneg_of_pos (le_refl 0) above, rfl⟩
    · rintro _ _ ⟨total, above, rfl⟩ ⟨value, more, rfl⟩
      exact ⟨_, add_pos above more, rfl⟩
    · obtain ⟨level, rfl⟩ := framePowers_of_level sound _ first power member
      have ten : ((10 : ℕ) : ℝ) ≠ 0 := by norm_num
      rw [reference_finite positive long, finite_sub, ofCount_eq, finite_div _ ten]
      exact ⟨_, Real.rpow_pos_of_pos (by norm_num) _, rfl⟩
  intro power member
  obtain ⟨value, above, rfl⟩ := sums power member
  rw [ofCount_eq frames, finite_div _ count.ne', log10_finite (div_pos above count)]
  exact isFinite_finite _

private theorem levels_two (sound : Fourier.Finite samples) {frames : Nat} (taken : 0 < frames) :
    ∀ power ∈ sumPowers (Window.hann 2) samples frames,
      ofCount 10 * Scalar.log10 (power / ofCount frames) = infinite false := by
  have sums : ∀ power ∈ sumPowers (Window.hann 2) samples frames, power = infinite false := by
    refine forall_mem_sumPowers taken ?_ ?_ fun first power member => ?_
    · rintro _ rfl
      rfl
    · rintro _ _ rfl rfl
      exact infinite_add_self false
    · obtain ⟨level, rfl⟩ := framePowers_of_level sound _ first power member
      have raised : finite level - infinite true = infinite false := rfl
      rw [reference_two, raised, infinite_div_ofCount]
      rfl
  intro power member
  rw [sums power member, infinite_div_ofCount]
  exact ofCount_mul_infinite (by omega) false

/-- **The normalisation of spectra.** Of all sizes that a transform can have, only for two the
window has no power and the reference is not finite. Then every level of every finite capture is
infinite, and for all other sizes every level is finite. -/
theorem normalised_iff {size : Nat} (positive : 0 < size) (even : size % 2 = 0) :
    ((0 : Extended) < Window.power (Window.hann size) ↔ size ≠ 2) ∧
      (isFinite (reference (Window.hann size) : Extended) ↔ size ≠ 2) ∧
      ∀ samples : Array (Phasor Extended), size ≤ samples.size →
        (∀ sample ∈ samples, sample.isFinite) →
          ∃ bins, levels samples size = .ok bins ∧ bins.size = size ∧
            (size ≠ 2 → ∀ level ∈ bins, isFinite level) ∧
            (size = 2 → ∀ level ∈ bins, level = .infinite false) := by
  refine ⟨?_, ⟨?_, fun long => ?_⟩, fun samples enough sound => ?_⟩
  · rw [Window.hann_finite, Window.power_finite]
    exact (Window.power_hann_pos_iff size).trans (and_iff_right positive.ne')
  · rintro isFinite rfl
    rw [reference_two] at isFinite
    exact not_isFinite_infinite true isFinite
  · rw [reference_finite positive long]
    exact isFinite_finite _
  · have frames : 0 < samples.size / size := Nat.div_pos enough positive
    have finite := Fourier.finite_of_forall_mem sound
    refine ⟨_, levels_of_enough positive even enough, by simp, ?_, ?_⟩
    · intro long level member
      obtain ⟨power, place, rfl⟩ := Array.mem_map.mp member
      exact levels_finite positive long finite frames power place
    · rintro rfl level member
      obtain ⟨power, place, rfl⟩ := Array.mem_map.mp member
      exact levels_two finite frames power place

/-- Nothing but zeros, in frames of two samples. -/
theorem normalisation_void : ¬(0 : Extended) < Window.power (Window.hann 2) ∧
    ¬isFinite (reference (Window.hann 2) : Extended) ∧
    ∃ bins, levels (Array.replicate 2 (.zero : Phasor Extended)) 2 = .ok bins ∧
      ∃ level ∈ bins, ¬isFinite level := by
  have sound : Fourier.Finite (Array.replicate 2 (.zero : Phasor Extended)) :=
    Fourier.finite_of_forall_mem fun sample member =>
      (Array.mem_replicate.mp member).2 ▸ Phasor.isFinite_zero
  refine ⟨?_, ?_, _, levels_of_enough two_pos rfl (by simp), ?_⟩
  · rw [Window.hann_finite, Window.power_finite]
    exact fun power => ((Window.power_hann_pos_iff 2).mp power).2 rfl
  · rw [reference_two]
    exact not_isFinite_infinite true
  · have place : 0 < (sumPowers (Window.hann 2) (Array.replicate 2 (.zero : Phasor Extended))
        ((Array.replicate 2 (.zero : Phasor Extended)).size / 2)).size := by simp
    refine ⟨_, Array.mem_map_of_mem (Array.getElem_mem place), ?_⟩
    rw [levels_two sound (by simp) _ (Array.getElem_mem place)]
    exact not_isFinite_infinite false

theorem normalised_iff_four : (0 : Extended) < Window.power (Window.hann 4) ∧
    isFinite (reference (Window.hann 4) : Extended) ∧
    ∃ bins, levels (Array.replicate 4 (.zero : Phasor Extended)) 4 = .ok bins ∧ bins.size = 4 ∧
      ∀ level ∈ bins, isFinite level := by
  obtain ⟨power, reference, levels⟩ := normalised_iff (show 0 < 4 by omega) rfl
  obtain ⟨bins, taken, size_eq, finite, -⟩ := levels (Array.replicate 4 .zero) (by simp)
    fun sample member => (Array.mem_replicate.mp member).2 ▸ Phasor.isFinite_zero
  exact ⟨power.mpr (by omega), reference.mpr (by omega), bins, taken, size_eq,
    finite (by omega)⟩

end Spectrum

end LoopbackCalibration
