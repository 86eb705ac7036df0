import LoopbackCalibration.Scalar

/-! # Phasors

A phasor is a complex number in rectangular form. Samples, tone amplitudes and
corrections are phasors. Products are expanded term by term, and the polar form
is built from and read back into a magnitude and an angle.
-/

namespace LoopbackCalibration

/-- A complex number given by its real and imaginary parts. -/
structure Phasor (α : Type) where
  re : α
  im : α
  deriving Repr, BEq, DecidableEq

namespace Phasor

section Arithmetic

variable {α : Type} [Arithmetic α]

/-- The phasor at the origin. -/
@[inline] def zero : Phasor α := ⟨0, 0⟩

/-- The phasor that leaves others as they are when multiplied. -/
@[inline] def one : Phasor α := ⟨1, 0⟩

/-- The sum, part by part. -/
@[inline] def add (left right : Phasor α) : Phasor α :=
  ⟨left.re + right.re, left.im + right.im⟩

/-- The difference, part by part. -/
@[inline] def sub (left right : Phasor α) : Phasor α :=
  ⟨left.re - right.re, left.im - right.im⟩

/-- The phasor with both parts negated. -/
@[inline] def neg (value : Phasor α) : Phasor α :=
  ⟨-value.re, -value.im⟩

/-- The complex product. -/
@[inline] def mul (left right : Phasor α) : Phasor α :=
  ⟨left.re * right.re - left.im * right.im, left.re * right.im + left.im * right.re⟩

/-- The phasor mirrored at the real axis. -/
@[inline] def conj (value : Phasor α) : Phasor α :=
  ⟨value.re, -value.im⟩

/-- Both parts multiplied by a number. -/
@[inline] def scale (value : Phasor α) (factor : α) : Phasor α :=
  ⟨value.re * factor, value.im * factor⟩

/-- Both parts divided by a number. -/
@[inline] def divide (value : Phasor α) (divisor : α) : Phasor α :=
  ⟨value.re / divisor, value.im / divisor⟩

/-- The square of the magnitude. -/
@[inline] def normSquare (value : Phasor α) : α :=
  value.re * value.re + value.im * value.im

/-- Multiplicative inverse: the conjugate over the square of the magnitude. -/
@[inline] def inverse (value : Phasor α) : Phasor α :=
  ⟨value.re / value.normSquare, -value.im / value.normSquare⟩

/-- The phasor that a sample buffer holds after this one is stored in it. -/
@[inline] def stored (value : Phasor α) : Phasor α :=
  ⟨Arithmetic.stored value.re, Arithmetic.stored value.im⟩

@[inline] instance : Add (Phasor α) := ⟨add⟩

@[inline] instance : Sub (Phasor α) := ⟨sub⟩

@[inline] instance : Neg (Phasor α) := ⟨neg⟩

@[inline] instance : Mul (Phasor α) := ⟨mul⟩

instance : Inhabited (Phasor α) := ⟨zero⟩

end Arithmetic

section Scalar

variable {α : Type} [Scalar α]

/-- The phasor of a magnitude and an angle. -/
@[inline] def ofPolar (magnitude angle : α) : Phasor α :=
  ⟨magnitude * Scalar.cos angle, magnitude * Scalar.sin angle⟩

/-- The distance from the origin. -/
@[inline] def magnitude (value : Phasor α) : α :=
  Scalar.hypot value.re value.im

/-- The angle from the positive real axis. -/
@[inline] def angle (value : Phasor α) : α :=
  Scalar.atan2 value.im value.re

end Scalar

end Phasor

end LoopbackCalibration
