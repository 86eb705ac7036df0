import LoopbackCalibration.Scalar

/-! # Double-precision scalars

A finite double is a significand times a power of two. `decode` reads that pair
off the sixty-four bits, and `nearest` is the double closest to a quotient of
two natural numbers, a tie going to the even significand. `Float` is the scalar
the program runs with: samples are stored in single precision.
-/

namespace LoopbackCalibration

/-- The quotient of two natural numbers rounded to the nearest natural number, a
tie going to the even one. -/
def roundQuotient (numerator denominator : Nat) : Nat :=
  let quotient := numerator / denominator
  let remainder := numerator % denominator
  if denominator < 2 * remainder ∨ denominator = 2 * remainder ∧ quotient % 2 = 1 then
    quotient + 1
  else
    quotient

/-- The nearest to a count among the numbers with at most so many binary digits before
their trailing zeros, a tie going to the one whose last such digit is zero. -/
def roundCount (digits count : Nat) : Nat :=
  let unit := 2 ^ (count.log2 + 1 - digits)
  roundQuotient count unit * unit

namespace Binary64

/-- What the bits of a double stand for. -/
inductive Decoded where
  | nan
  | infinite (negative : Bool)
  /-- `significand * 2 ^ exponent` with the given sign. -/
  | finite (negative : Bool) (significand : Nat) (exponent : Int)

/-- Read the sign, significand and exponent off a double. -/
def decode (value : Float) : Decoded :=
  let bits := value.toBits.toNat
  let negative := decide (2 ^ (63 : Nat) ≤ bits)
  let biased : Nat := bits / 2 ^ (52 : Nat) % 2 ^ (11 : Nat)
  let trailing : Nat := bits % 2 ^ (52 : Nat)
  if biased = 2 ^ (11 : Nat) - 1 then
    if trailing = 0 then .infinite negative else .nan
  else if biased = 0 then
    .finite negative trailing (-1074)
  else
    .finite negative (2 ^ (52 : Nat) + trailing) ((biased : Int) - 1075)

/-- A significand times a power of two as a numerator and a denominator. -/
def fraction (significand : Nat) (exponent : Int) : Nat × Nat :=
  if 0 ≤ exponent then
    (significand * 2 ^ exponent.toNat, 1)
  else
    (significand, 2 ^ (-exponent).toNat)

/-- The least and the greatest signed 64-bit word. -/
def leastWord : Int := -2 ^ (63 : Nat)

/-- The greatest signed 64-bit integer. -/
def greatestWord : Int := 2 ^ (63 : Nat) - 1

/-- The whole part of a double, toward zero, or the nearest word to it; zero for what is not a
number. -/
def truncate (value : Float) : Int :=
  match decode value with
  | .nan => 0
  | .infinite negative => if negative then leastWord else greatestWord
  | .finite negative significand exponent =>
    let (numerator, denominator) := fraction significand exponent
    let whole : Int := (numerator / denominator : Nat)
    max leastWord (min greatestWord (if negative then -whole else whole))

/-- The position of the leading binary digit of a positive quotient. -/
def leadingExponent (numerator denominator : Nat) : Int :=
  let guess := (numerator.log2 : Int) - (denominator.log2 : Int)
  let scaled := fraction denominator guess
  if numerator * scaled.2 < scaled.1 then guess - 1 else guess

/-- The double nearest to a quotient with the given sign; infinite when no finite
double is that large. -/
def nearest (negative : Bool) (numerator denominator : Nat) : Float :=
  let sign : Nat := if negative then 2 ^ (63 : Nat) else 0
  if numerator = 0 then
    Float.ofBits (UInt64.ofNat sign)
  else
    let exponent := max (leadingExponent numerator denominator - 52) (-1074)
    let significand :=
      if 0 ≤ exponent then
        roundQuotient numerator (denominator * 2 ^ exponent.toNat)
      else
        roundQuotient (numerator * 2 ^ (-exponent).toNat) denominator
    let magnitude := (exponent + 1074).toNat * 2 ^ (52 : Nat) + significand
    Float.ofBits (UInt64.ofNat (sign + min magnitude (2047 * 2 ^ (52 : Nat))))

/-- Twice the double range in decimal digits: a decimal exponent beyond it cannot
bring a number of as many digits back into range. -/
def decimalReach : Nat := 800

/-- The double nearest to `digits * 10 ^ exponent` with the given sign. -/
def ofDecimal (negative : Bool) (digits : Nat) (exponent : Int) : Float :=
  let size : Int := digits.log2
  if digits = 0 ∨ exponent + size < -decimalReach then
    nearest negative 0 1
  else if (decimalReach : Int) < exponent then
    nearest negative (10 ^ decimalReach) 1
  else if 0 ≤ exponent then
    nearest negative (digits * 10 ^ exponent.toNat) 1
  else
    nearest negative digits (10 ^ (-exponent).toNat)

/-- Positive infinity. -/
def infinity : Float := 1.0 / 0.0

/-- The result of an operation that has none. -/
def notNumber : Float := 0.0 / 0.0

/-- The number two. -/
def two : Float := 2.0

/-- The number ten. -/
def ten : Float := 10.0

/-- Squaring a leg above this one may leave the double range at the upper end. -/
def longLeg : Float := 1e150

/-- Squaring legs below this one may leave the double range at the lower end. -/
def shortLeg : Float := 1e-130

/-- The length of a hypotenuse. The legs are scaled by a power of two where
squaring them would leave the double range, and an infinite leg wins over one
that is not a number. -/
def hypot (left right : Float) : Float :=
  let long := max left.abs right.abs
  if left.isInf || right.isInf then
    infinity
  else if left.isNaN || right.isNaN then
    notNumber
  else if long > longLeg then
    let first := left.scaleB (-600)
    let second := right.scaleB (-600)
    (first * first + second * second).sqrt.scaleB 600
  else if long < shortLeg then
    let first := left.scaleB 600
    let second := right.scaleB 600
    (first * first + second * second).sqrt.scaleB (-600)
  else
    (left * left + right * right).sqrt

end Binary64

instance : Scalar Float where
  zero := 0.0
  one := 1.0
  decideLt := fun left right => inferInstanceAs (Decidable (left < right))
  decideLe := fun left right => inferInstanceAs (Decidable (left ≤ right))
  ofCount := Float.ofNat
  halvings := fun count => (1.0 : Float).scaleB (-(count : Int))
  truncate := Binary64.truncate
  belowInfinity := fun value => decide (value < Binary64.infinity)
  stored := fun value => value.toFloat32.toFloat
  pi := 3.141592653589793
  sqrt := Float.sqrt
  sin := Float.sin
  cos := Float.cos
  atan2 := Float.atan2
  hypot := Binary64.hypot
  exp2 := fun value => Float.pow Binary64.two value
  exp10 := fun value => Float.pow Binary64.ten value
  log10 := Float.log10

end LoopbackCalibration
