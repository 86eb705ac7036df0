import LoopbackCalibration.Correction
import LoopbackCalibration.Proofs.Scalar.Real

/-! # Phasors in polar form

In exact arithmetic a phasor is a complex number, its magnitude and angle are the norm
and the argument, and products multiply magnitudes and add angles. Composing IQ
corrections goes through magnitudes and angles and comes to the product
(`composeIq_eq_mul`), also at zero and when the angles add up to more than half a turn.
-/

namespace LoopbackCalibration

/-- The unit number after so many turns. -/
noncomputable def cycle (turns : ℝ) : ℂ :=
  Complex.exp ((2 : ℕ) * Real.pi * turns * Complex.I)

theorem cycle_eq (turns : ℝ) : cycle turns = Complex.exp (2 * Real.pi * turns * Complex.I) := by
  rw [cycle, Nat.cast_ofNat]

@[simp] theorem cycle_zero : cycle 0 = 1 := by
  simp [cycle]

theorem cycle_add (first second : ℝ) : cycle (first + second) = cycle first * cycle second := by
  rw [cycle, cycle, cycle, ← Complex.exp_add]
  congr 1
  push_cast
  ring

namespace Phasor

/-- A phasor of reals as a complex number. -/
def toComplex (value : Phasor ℝ) : ℂ := ⟨value.re, value.im⟩

theorem toComplex_injective : Function.Injective toComplex := by
  intro left right same
  exact congrArg₂ Phasor.mk (congrArg Complex.re same) (congrArg Complex.im same)

theorem toComplex_mul (left right : Phasor ℝ) :
    (left * right).toComplex = left.toComplex * right.toComplex := by
  apply Complex.ext
  · rw [Complex.mul_re]
    rfl
  · rw [Complex.mul_im]
    rfl

/-- A complex number as a phasor of reals. -/
def ofComplex (value : ℂ) : Phasor ℝ := ⟨value.re, value.im⟩

@[simp] theorem toComplex_ofComplex (value : ℂ) : (ofComplex value).toComplex = value := rfl

theorem toComplex_zero : (zero : Phasor ℝ).toComplex = 0 := rfl

theorem toComplex_one : (one : Phasor ℝ).toComplex = 1 := rfl

theorem toComplex_eq_zero_iff {value : Phasor ℝ} : value.toComplex = 0 ↔ value = zero :=
  toComplex_injective.eq_iff (b := zero)

theorem toComplex_add (left right : Phasor ℝ) :
    (left + right).toComplex = left.toComplex + right.toComplex := rfl

theorem toComplex_sub (left right : Phasor ℝ) :
    (left - right).toComplex = left.toComplex - right.toComplex := rfl

theorem toComplex_neg (value : Phasor ℝ) : (-value).toComplex = -value.toComplex := rfl

theorem toComplex_scale (value : Phasor ℝ) (factor : ℝ) :
    (value.scale factor).toComplex = value.toComplex * factor := by
  apply Complex.ext
  · rw [Complex.re_mul_ofReal]
    rfl
  · rw [Complex.im_mul_ofReal]
    rfl

theorem toComplex_divide (value : Phasor ℝ) (divisor : ℝ) :
    (value.divide divisor).toComplex = value.toComplex / divisor := by
  apply Complex.ext
  · rw [Complex.div_ofReal_re]
    rfl
  · rw [Complex.div_ofReal_im]
    rfl

theorem toComplex_inverse (value : Phasor ℝ) :
    value.inverse.toComplex = value.toComplex⁻¹ := by
  apply Complex.ext
  · rw [Complex.inv_re, Complex.normSq_apply]
    rfl
  · rw [Complex.inv_im, Complex.normSq_apply]
    rfl

noncomputable instance : CommMonoid (Phasor ℝ) where
  one := .one
  mul_assoc first second third := by
    apply toComplex_injective
    simp only [toComplex_mul, mul_assoc]
  one_mul value := by
    apply toComplex_injective
    rw [toComplex_mul]
    exact one_mul value.toComplex
  mul_one value := by
    apply toComplex_injective
    rw [toComplex_mul]
    exact mul_one value.toComplex
  mul_comm left right := by
    apply toComplex_injective
    simp only [toComplex_mul, mul_comm]

theorem magnitude_eq_norm (value : Phasor ℝ) : value.magnitude = ‖value.toComplex‖ := by
  rw [Complex.norm_eq_sqrt_sq_add_sq]
  rfl

theorem angle_eq_arg (value : Phasor ℝ) : value.angle = value.toComplex.arg := rfl

theorem toComplex_ofPolar (magnitude angle : ℝ) :
    (ofPolar magnitude angle).toComplex = magnitude * Complex.exp (angle * Complex.I) := by
  apply Complex.ext
  · rw [Complex.re_ofReal_mul, Complex.exp_ofReal_mul_I_re]
    rfl
  · rw [Complex.im_ofReal_mul, Complex.exp_ofReal_mul_I_im]
    rfl

/-- A full turn is two half turns. -/
theorem toComplex_ofPolar_turns (turns : ℝ) :
    (ofPolar 1 (Arithmetic.two * Real.pi * turns)).toComplex = cycle turns := by
  rw [toComplex_ofPolar, cycle_eq, Exact.two_eq, Complex.ofReal_one, one_mul]
  congr 1
  push_cast
  rfl

theorem ofPolar_one_zero : ofPolar 1 0 = (1 : Phasor ℝ) := by
  apply toComplex_injective
  rw [toComplex_ofPolar, Complex.ofReal_zero, zero_mul, Complex.exp_zero, Complex.ofReal_one,
    mul_one]
  rfl

/-- Magnitudes multiply and angles add. -/
theorem ofPolar_mul_ofPolar (first second turn twist : ℝ) :
    ofPolar first turn * ofPolar second twist = ofPolar (first * second) (turn + twist) := by
  apply toComplex_injective
  simp only [toComplex_mul, toComplex_ofPolar, Complex.ofReal_mul, Complex.ofReal_add]
  rw [add_mul, Complex.exp_add]
  ring

theorem ofPolar_magnitude_angle (value : Phasor ℝ) :
    ofPolar value.magnitude value.angle = value := by
  apply toComplex_injective
  rw [toComplex_ofPolar, magnitude_eq_norm, angle_eq_arg, Complex.norm_mul_exp_arg_mul_I]

theorem magnitude_ofPolar {magnitude : ℝ} (positive : 0 ≤ magnitude) (angle : ℝ) :
    (ofPolar magnitude angle).magnitude = magnitude := by
  rw [magnitude_eq_norm, toComplex_ofPolar, norm_mul, Complex.norm_exp_ofReal_mul_I, mul_one,
    Complex.norm_real, Real.norm_of_nonneg positive]

/-- An angle of at most half a turn is read back. -/
theorem angle_ofPolar {magnitude angle : ℝ} (positive : 0 < magnitude)
    (within : angle ∈ Set.Ioc (-Real.pi) Real.pi) : (ofPolar magnitude angle).angle = angle := by
  rw [angle_eq_arg, toComplex_ofPolar, Complex.exp_mul_I,
    Complex.arg_mul_cos_add_sin_mul_I positive within]

end Phasor

/-- **Composing is multiplying.** The angle may leave the range that angles are read back
in, and zero has no angle of its own. -/
theorem composeIq_eq_mul (delta base : Phasor ℝ) : composeIq delta base = delta * base := by
  calc composeIq delta base
      = .ofPolar delta.magnitude delta.angle * .ofPolar base.magnitude base.angle :=
        (Phasor.ofPolar_mul_ofPolar ..).symm
    _ = delta * base := by
        rw [Phasor.ofPolar_magnitude_angle, Phasor.ofPolar_magnitude_angle]

end LoopbackCalibration
