import LoopbackCalibration.Phasor

/-! # Corrections

A correction is a phasor of one of two kinds. An IQ-balance correction multiplies
the signal and a DC-offset correction is added to it. Refining a correction
composes a delta with it: magnitudes multiply and angles add for IQ balance,
and parts add, bounded to one in magnitude, for DC offset.
-/

namespace LoopbackCalibration

/-- Kind of correction applied to a signal path. -/
inductive CorrectionKind where
  /-- Multiplicative correction of the imbalance between the two parts. -/
  | iqBalance
  /-- Additive correction of a constant offset. -/
  | dcOffset
  deriving Repr, DecidableEq

namespace CorrectionKind

/-- Both kinds of correction. -/
def all : List CorrectionKind := [.iqBalance, .dcOffset]

/-- The name of a kind of correction in reports. -/
def label : CorrectionKind → String
  | .iqBalance => "IQ"
  | .dcOffset => "DC"

/-- The correction of a kind that leaves the signal unchanged. -/
def identity {α : Type} [Arithmetic α] : CorrectionKind → Phasor α
  | .iqBalance => .one
  | .dcOffset => .zero

end CorrectionKind

/-- Compose an IQ delta with a base: magnitudes multiply and angles add. -/
def composeIq {α : Type} [Scalar α] (delta base : Phasor α) : Phasor α :=
  .ofPolar (delta.magnitude * base.magnitude) (delta.angle + base.angle)

section Offset

variable {α : Type} [Arithmetic α]

/-- A scalar bounded to `[-1, 1]`. -/
def clampUnit (value : α) : α :=
  Arithmetic.clamp (-1) 1 value

/-- An offset with both parts brought into the range from minus one to one. -/
def clampOffset (value : Phasor α) : Phasor α :=
  ⟨clampUnit value.re, clampUnit value.im⟩

/-- Shift an offset by a delta and bound the result. -/
def offsetDc (base delta : Phasor α) : Phasor α :=
  clampOffset (base + delta)

end Offset

/-- A correction of a kind refined by a delta. -/
def CorrectionKind.refine {α : Type} [Scalar α] (kind : CorrectionKind) (base delta : Phasor α) :
    Phasor α :=
  match kind with
  | .iqBalance => composeIq delta base
  | .dcOffset => offsetDc base delta

end LoopbackCalibration
