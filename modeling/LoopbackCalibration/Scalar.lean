/-! # Scalars

Frequencies, levels, corrections and samples are computed over an abstract
scalar. `Arithmetic` holds what a search needs: ordered field operations, whole
numbers, halvings, truncation to an integer and the rounding a stored sample
undergoes. `Scalar` adds the functions a measurement needs. A scalar that does
not compare with itself is *not a number*: it loses every comparison, and
`larger` and `smaller` pass over it.
-/

-- Powers of natural numbers and of integers are the same ones whatever else is imported.
attribute [instance (1100)] instPowNat

namespace LoopbackCalibration

/-- Ordered arithmetic for corrections, frequencies and gains. -/
class Arithmetic (α : Type) extends
    Add α, Sub α, Mul α, Div α, Neg α, Zero α, One α, LT α, LE α where
  decideLt : ∀ left right : α, Decidable (left < right)
  decideLe : ∀ left right : α, Decidable (left ≤ right)
  /-- The scalar nearest to a count. -/
  ofCount : Nat → α
  /-- One halved the given number of times. -/
  halvings : Nat → α
  /-- The whole part, toward zero, within the range of a signed 64-bit word;
  zero for what is not a number. -/
  truncate : α → Int
  /-- Whether a scalar is a number below positive infinity. -/
  belowInfinity : α → Bool
  /-- The value a sample buffer holds after the scalar is stored in it. -/
  stored : α → α

-- A type's own operations come before those that it has as a scalar.
attribute [instance (100)] Arithmetic.toAdd Arithmetic.toSub Arithmetic.toMul Arithmetic.toDiv
  Arithmetic.toNeg Arithmetic.toZero Arithmetic.toOne Arithmetic.toLT Arithmetic.toLE

instance Arithmetic.instDecidableLt [scalar : Arithmetic α] (left right : α) :
    Decidable (left < right) :=
  scalar.decideLt left right

instance Arithmetic.instDecidableLe [scalar : Arithmetic α] (left right : α) :
    Decidable (left ≤ right) :=
  scalar.decideLe left right

/-- Arithmetic together with the functions that measuring a tone needs. -/
class Scalar (α : Type) extends Arithmetic α where
  pi : α
  sqrt : α → α
  sin : α → α
  cos : α → α
  /-- Angle of the point whose ordinate comes first. -/
  atan2 : α → α → α
  hypot : α → α → α
  exp2 : α → α
  exp10 : α → α
  log10 : α → α

/-- The text of a scalar in messages. -/
class Numeral (α : Type) where
  /-- The fewest digits that read back, written without an exponent. -/
  plain : α → String
  /-- The fewest digits that read back, written with an exponent. -/
  scientific : α → String

namespace Arithmetic

variable {α : Type} [Arithmetic α]

/-- The scalar two. -/
@[inline] def two : α := 1 + 1

/-- The scalar one half. -/
@[inline] def half : α := 1 / two

/-- A fraction of two counts. -/
def ratio (numerator denominator : Nat) : α :=
  ofCount numerator / ofCount denominator

/-- Whether a scalar is a number, that is, compares with itself. -/
@[inline] def isNumber (value : α) : Bool :=
  decide (value ≤ value)

/-- The larger of two scalars; what is not a number gives way to the other. -/
@[inline] def larger (left right : α) : α :=
  if isNumber left then (if left < right then right else left) else right

/-- The smaller of two scalars; what is not a number gives way to the other. -/
@[inline] def smaller (left right : α) : α :=
  if isNumber left then (if right < left then right else left) else right

/-- The nearest scalar between two bounds; what is not a number stays. -/
@[inline] def clamp (low high value : α) : α :=
  let raised := if value < low then low else value
  if high < raised then high else raised

end Arithmetic

end LoopbackCalibration
