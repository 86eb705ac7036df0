import Mathlib.Algebra.Field.GeomSum
import Mathlib.RingTheory.RootsOfUnity.Complex
import LoopbackCalibration.Proofs.Scalar.Polar
import LoopbackCalibration.Tone

/-! # Tones that fill a capture

A tone that turns a whole number of times during a capture is orthogonal to every other one that
does, unless the two differ by a multiple of the capture's size. So the amplitude that is measured
at such a frequency is the sum of the amplitudes of the tones that alias to it, and nothing leaks
into it from the others or from the offset (`Tone.amplitude_superposed`).
-/

namespace LoopbackCalibration

namespace Tone

open Arithmetic

/-- Where a tone of full scale stands at a sample, if it turns that many times in a capture. -/
noncomputable def rotation (size : Nat) (turns : ℤ) (index : Nat) : ℂ :=
  cycle (turns * index / size)

/-- The amplitude of a signal at the frequency that turns that many times in a capture. -/
noncomputable def coefficient (size : Nat) (turns : ℤ) (signal : Nat → ℂ) : ℂ :=
  (∑ index ∈ Finset.range size, signal index * rotation size (-turns) index) / size

/-- The capture of a signal. -/
def capture (size : Nat) (signal : Nat → ℂ) : Array (Phasor ℝ) :=
  Array.ofFn fun index : Fin size => .ofComplex (signal index)

section Capture

variable {size : Nat}

theorem capture_succ (size : Nat) (signal : Nat → ℂ) :
    capture (size + 1) signal = (capture size signal).push (.ofComplex (signal size)) :=
  Array.ofFn_succ

@[simp] theorem size_capture (size : Nat) (signal : Nat → ℂ) : (capture size signal).size = size :=
  Array.size_ofFn

theorem isEmpty_capture (positive : 0 < size) (signal : Nat → ℂ) :
    (capture size signal).isEmpty = false := by
  simp [Array.isEmpty, positive.ne']

/-- Mixing turns each sample back and sums up. -/
theorem foldl_mix_capture (step : ℝ) (size : Nat) (signal : Nat → ℂ) :
    (capture size signal).foldl (mix step) (.zero, 0) =
      (.ofComplex (∑ index ∈ Finset.range size,
        signal index * Complex.exp ((step * index : ℝ) * Complex.I)), size) := by
  induction size with
  | zero => rfl
  | succ size ih =>
      rw [capture_succ, Array.foldl_push, ih, Finset.sum_range_succ]
      refine Prod.ext (Phasor.toComplex_injective ?_) rfl
      simp only [mix, Phasor.toComplex_add, Phasor.toComplex_mul, Phasor.toComplex_ofPolar,
        Phasor.toComplex_ofComplex, Complex.ofReal_one, one_mul]
      rfl

theorem sum_capture (size : Nat) (signal : Nat → ℂ) :
    Samples.sum (capture size signal) =
      .ofComplex (∑ index ∈ Finset.range size, signal index) := by
  induction size with
  | zero => rfl
  | succ size ih =>
      rw [Samples.sum] at ih ⊢
      rw [capture_succ, Array.foldl_push, ih, Finset.sum_range_succ]
      rfl

/-- The mixer turns a whole number of times during the capture. -/
theorem mixerStep_mul (positive : 0 < size) {rate : ℝ} (moving : rate ≠ 0) (turns : ℤ)
    (index : Nat) : Complex.exp
        ((mixerStep (turns * rate / size) rate * index : ℝ) * Complex.I) =
      rotation size (-turns) index := by
  have nonzero : (size : ℝ) ≠ 0 := Nat.cast_ne_zero.mpr positive.ne'
  have angle : mixerStep (turns * rate / size) rate * index =
      two * Real.pi * ((-turns : ℤ) * index / size) := by
    change -two * Real.pi * (turns * rate / size) / rate * index = _
    push_cast
    field_simp
  rw [rotation, ← Phasor.toComplex_ofPolar_turns, ← angle, Phasor.toComplex_ofPolar,
    Complex.ofReal_one, one_mul]

/-- A measurement reads a coefficient of the signal. -/
theorem toComplex_amplitude_capture (positive : 0 < size) {rate : ℝ} (moving : rate ≠ 0)
    (turns : ℤ) (signal : Nat → ℂ) :
    (amplitude (capture size signal) (turns * rate / size) rate).toComplex =
      coefficient size turns signal := by
  simp only [amplitude, isEmpty_capture positive, Bool.false_eq_true, if_false]
  rw [foldl_mix_capture]
  simp only [mixerStep_mul positive moving, Phasor.toComplex_divide, Phasor.toComplex_ofComplex,
    size_capture]
  rfl

theorem rotation_zero (size index : Nat) : rotation size 0 index = 1 := by
  simp [rotation]

/-- The mean of a capture is the amplitude of what does not turn. -/
theorem removeMean_capture (positive : 0 < size) (signal : Nat → ℂ) :
    Samples.removeMean .stored (capture size signal) =
      capture size fun index => signal index - coefficient size 0 signal := by
  have mean : (Phasor.stored (Samples.mean (capture size signal))).toComplex =
      coefficient size 0 signal := by
    change (Samples.mean (capture size signal)).toComplex = _
    simp only [Samples.mean, sum_capture, size_capture, Phasor.toComplex_divide,
      Phasor.toComplex_ofComplex, coefficient, neg_zero, rotation_zero, mul_one]
    rfl
  simp only [Samples.removeMean, isEmpty_capture positive, Bool.false_eq_true, if_false]
  rw [capture, capture, Array.map_ofFn]
  congr 1
  funext index
  refine Phasor.toComplex_injective ?_
  rw [Phasor.toComplex_ofComplex, ← mean]
  rfl

end Capture

section Orthogonality

variable {size : Nat} {turns other : ℤ}

theorem coefficient_add (size : Nat) (turns : ℤ) (first second : Nat → ℂ) :
    coefficient size turns (fun index => first index + second index) =
      coefficient size turns first + coefficient size turns second := by
  simp only [coefficient, add_mul, Finset.sum_add_distrib, add_div]

theorem coefficient_mul (size : Nat) (turns : ℤ) (factor : ℂ) (signal : Nat → ℂ) :
    coefficient size turns (fun index => factor * signal index) =
      factor * coefficient size turns signal := by
  simp only [coefficient, mul_assoc, ← Finset.mul_sum, mul_div_assoc]

theorem rotation_add (size : Nat) (first second : ℤ) (index : Nat) :
    rotation size (first + second) index =
      rotation size first index * rotation size second index := by
  rw [rotation, rotation, rotation, ← cycle_add]
  congr 1
  push_cast
  ring

theorem rotation_eq_pow (size : Nat) (turns : ℤ) (index : Nat) :
    rotation size turns index =
      (Complex.exp (2 * Real.pi * Complex.I / size) ^ turns) ^ index := by
  rw [← Complex.exp_int_mul, ← Complex.exp_nat_mul, rotation, cycle_eq]
  congr 1
  push_cast
  ring

theorem rotation_of_dvd (positive : 0 < size) (still : (size : ℤ) ∣ turns) (index : Nat) :
    rotation size turns index = 1 := by
  have primitive := Complex.isPrimitiveRoot_exp size positive.ne'
  rw [rotation_eq_pow, (primitive.zpow_eq_one_iff_dvd turns).mpr still, one_pow]

/-- A tone that does not stand still sums up to nothing during a capture. -/
theorem sum_rotation (positive : 0 < size) (turns : ℤ) :
    ∑ index ∈ Finset.range size, rotation size turns index =
      if (size : ℤ) ∣ turns then (size : ℂ) else 0 := by
  by_cases still : (size : ℤ) ∣ turns
  · simp [rotation_of_dvd positive still, still]
  · have primitive := Complex.isPrimitiveRoot_exp size positive.ne'
    have moves : Complex.exp (2 * Real.pi * Complex.I / size) ^ turns ≠ 1 :=
      mt (primitive.zpow_eq_one_iff_dvd turns).mp still
    have closed : (Complex.exp (2 * Real.pi * Complex.I / size) ^ turns) ^ size = 1 := by
      rw [← zpow_natCast, zpow_comm, zpow_natCast, primitive.pow_eq_one, one_zpow]
    simp only [rotation_eq_pow]
    rw [if_neg still, geom_sum_eq moves, closed, sub_self, zero_div]

/-- **Orthogonality.** A tone has no amplitude at a frequency that it does not alias to. -/
theorem coefficient_rotation (positive : 0 < size) (turns other : ℤ) :
    coefficient size turns (rotation size other) =
      if other ≡ turns [ZMOD size] then 1 else 0 := by
  have nonzero : (size : ℂ) ≠ 0 := Nat.cast_ne_zero.mpr positive.ne'
  have aliases : (size : ℤ) ∣ other + -turns ↔ other ≡ turns [ZMOD size] := by
    rw [← sub_eq_add_neg, ← Int.modEq_iff_dvd]
    exact ⟨Int.ModEq.symm, Int.ModEq.symm⟩
  simp only [coefficient, ← rotation_add, sum_rotation positive, aliases]
  split_ifs
  · exact div_self nonzero
  · exact zero_div _

/-- Taking off the mean clears the frequencies that stand still in a capture, and no other. -/
theorem coefficient_sub_mean (positive : 0 < size) (turns : ℤ) (signal : Nat → ℂ) :
    coefficient size turns (fun index => signal index - coefficient size 0 signal) =
      if (size : ℤ) ∣ turns then 0 else coefficient size turns signal := by
  have constant (index : Nat) : signal index - coefficient size 0 signal =
      signal index + -coefficient size 0 signal * rotation size 0 index := by
    rw [rotation_zero]
    ring
  simp only [constant]
  rw [coefficient_add, coefficient_mul, coefficient_rotation positive]
  by_cases still : (size : ℤ) ∣ turns
  · have same : coefficient size turns signal = coefficient size 0 signal := by
      simp only [coefficient, rotation_of_dvd positive (dvd_neg.mpr still), neg_zero,
        rotation_zero]
    rw [if_pos still, if_pos (Int.modEq_zero_iff_dvd.mpr still).symm, same]
    ring
  · rw [if_neg still, if_neg fun aliases => still (Int.modEq_zero_iff_dvd.mp aliases.symm)]
    ring

end Orthogonality

section Superposition

variable {size : Nat}

/-- A tone that turns a whole number of times in a capture. -/
structure Component where
  amplitude : ℂ
  turns : ℤ

/-- The amplitudes of the tones that alias to the frequency that turns so often, added up. -/
def Component.gathered (size : Nat) (components : List Component) (turns : ℤ) : ℂ :=
  ((components.filter (·.turns ≡ turns [ZMOD size])).map amplitude).sum

theorem Component.gathered_cons (size : Nat) (first : Component) (rest : List Component)
    (turns : ℤ) : gathered size (first :: rest) turns =
      first.amplitude * (if first.turns ≡ turns [ZMOD size] then 1 else 0) +
        gathered size rest turns := by
  by_cases aliases : first.turns ≡ turns [ZMOD size] <;> simp [gathered, aliases]

/-- A signal made of an offset and of tones. -/
noncomputable def superposition (size : Nat) (offset : ℂ) (components : List Component)
    (index : Nat) : ℂ :=
  offset + (components.map fun component =>
    component.amplitude * rotation size component.turns index).sum

/-- What is measured of a superposition is measured of each part of it. -/
theorem coefficient_superposition (positive : 0 < size) (offset : ℂ)
    (components : List Component) (turns : ℤ) :
    coefficient size turns (superposition size offset components) =
      (if (size : ℤ) ∣ turns then offset else 0) + Component.gathered size components turns := by
  induction components with
  | nil =>
      have constant : superposition size offset [] =
          fun index => offset * rotation size 0 index := by
        funext index
        simp [superposition, rotation_zero]
      have still : 0 ≡ turns [ZMOD size] ↔ (size : ℤ) ∣ turns :=
        ⟨fun aliases => Int.modEq_zero_iff_dvd.mp aliases.symm,
          fun divides => (Int.modEq_zero_iff_dvd.mpr divides).symm⟩
      rw [constant, coefficient_mul, coefficient_rotation positive]
      simp [still, Component.gathered]
  | cons first rest ih =>
      have split : superposition size offset (first :: rest) = fun index =>
          superposition size offset rest index +
            first.amplitude * rotation size first.turns index := by
        funext index
        simp only [superposition, List.map_cons, List.sum_cons]
        ring
      rw [split, coefficient_add, ih, coefficient_mul, coefficient_rotation positive,
        Component.gathered_cons]
      ring

/-- **Tones that fill a capture do not leak.** Of a capture of an offset and of tones that turn a
whole number of times in it, once its mean is taken off, exactly the tones that alias to a frequency
that does so too are measured there, with their amplitudes added up. Where the frequency stands
still in the capture nothing at all is measured. -/
theorem amplitude_superposed (positive : 0 < size) {rate : ℝ} (moving : rate ≠ 0) (offset : ℂ)
    (components : List Component) (turns : ℤ) :
    (amplitude (Samples.removeMean .stored (capture size (superposition size offset components)))
        (turns * rate / size) rate).toComplex =
      if (size : ℤ) ∣ turns then 0 else Component.gathered size components turns := by
  rw [removeMean_capture positive, toComplex_amplitude_capture positive moving,
    coefficient_sub_mean positive]
  by_cases still : (size : ℤ) ∣ turns
  · rw [if_pos still, if_pos still]
  · rw [if_neg still, if_neg still, coefficient_superposition positive, if_neg still, zero_add]

/-- Of four tones in a capture of four samples, three alias to nine turns. -/
theorem amplitude_superposed_aliases :
    (amplitude (Samples.removeMean .stored (capture 4 (superposition 4 5
        [⟨1, 1⟩, ⟨2, -3⟩, ⟨3, 2⟩, ⟨Complex.I, 5⟩]))) ((9 : ℤ) * 8 / (4 : ℕ)) 8).toComplex =
      3 + Complex.I := by
  rw [amplitude_superposed (by norm_num) (by norm_num)]
  have gathered : Component.gathered 4 [⟨1, 1⟩, ⟨2, -3⟩, ⟨3, 2⟩, ⟨Complex.I, 5⟩] 9 =
      1 + (2 + Complex.I) := by
    simp [Component.gathered, Int.ModEq]
  rw [if_neg (by decide), gathered]
  ring

end Superposition

end Tone

end LoopbackCalibration
