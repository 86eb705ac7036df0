import LoopbackCalibration.Scalar.Binary64

/-! # Decimal text of doubles

A positive double is a quotient of natural numbers, so its decimal digits are
found by exact division. `roundSignificant` rounds to a number of significant
digits and `roundPlaces` to a number of places, a tie going to the even digit.
`shortest` takes the first grid of one, two, … seventeen digits that has a point
reading back as the same double, and of two such points the nearer. The texts
differ in layout only: `plain` never writes an exponent, `scientific` always
does, and `fixed` writes a set number of places.
-/

namespace LoopbackCalibration

namespace Decimal

/-- Decimal digits of a positive number: the leading digit stands for that many
powers of ten. -/
structure Significant where
  digits : Nat
  /-- The power of ten of the leading digit. -/
  exponent : Int
  deriving Repr, DecidableEq

/-- The decimal digits of a number, the first one first. -/
def digitsOf (value : Nat) : List Char :=
  Nat.toDigits 10 value

/-- The power of ten of the leading digit of a positive quotient. -/
def leadingPower (numerator denominator : Nat) : Int :=
  if denominator ≤ numerator then
    ((digitsOf (numerator / denominator)).length : Int) - 1
  else
    let length := (digitsOf (denominator / numerator)).length
    if numerator * 10 ^ (length - 1) = denominator then
      1 - (length : Int)
    else
      -(length : Int)

/-- A quotient times a power of ten, as a quotient. -/
def shift (numerator denominator : Nat) (power : Int) : Nat × Nat :=
  if 0 ≤ power then
    (numerator * 10 ^ power.toNat, denominator)
  else
    (numerator, denominator * 10 ^ (-power).toNat)

/-- A positive quotient rounded to a positive number of significant digits. -/
def roundSignificant (count numerator denominator : Nat) : Significant :=
  let power := leadingPower numerator denominator
  let scaled := shift numerator denominator ((count : Int) - 1 - power)
  let rounded := roundQuotient scaled.1 scaled.2
  if rounded = 10 ^ count then ⟨10 ^ (count - 1), power + 1⟩ else ⟨rounded, power⟩

/-- A quotient rounded to a number of decimal places, in units of the last place. -/
def roundPlaces (places numerator denominator : Nat) : Nat :=
  roundQuotient (numerator * 10 ^ places) denominator

/-- Whether a quotient lies among the reals that round to a double, the ends
belonging to it when its significand is even. The interval reaches half a unit
of the significand each way, and a quarter below a power of two. -/
def readsBack (significand : Nat) (exponent : Int) (numerator denominator : Nat) : Bool :=
  let below := if significand = 2 ^ (52 : Nat) ∧ -1074 < exponent then 1 else 2
  let unit := Binary64.fraction 1 (exponent - 2)
  let value := numerator * unit.2
  let lower := (4 * significand - below) * unit.1 * denominator
  let upper := (4 * significand + 2) * unit.1 * denominator
  if significand % 2 = 0 then
    decide (lower ≤ value) && decide (value ≤ upper)
  else
    decide (lower < value) && decide (value < upper)

/-- The point of the grid of `count` digits that reads back as the double, if one
of the two neighbours of the double does. -/
def shortestAt (significand : Nat) (exponent : Int) (count : Nat) : Option Significant :=
  let whole := Binary64.fraction significand exponent
  let power := leadingPower whole.1 whole.2
  let places : Int := (count : Int) - 1 - power
  let scaled := shift whole.1 whole.2 places
  let lower := scaled.1 / scaled.2
  let upper := lower + 1
  let back (point : Nat) : Bool :=
    let quotient := shift point 1 (-places)
    readsBack significand exponent quotient.1 quotient.2
  let nearer := if 2 * scaled.1 < (2 * lower + 1) * scaled.2 then lower else upper
  let further := if nearer = lower then upper else lower
  let point? := if back nearer then some nearer else if back further then some further else none
  point?.map fun point =>
    if point = 10 ^ count then ⟨10 ^ (count - 1), power + 1⟩ else ⟨point, power⟩

/-- Look for a point that reads back on the grids of `count` digits and more. -/
def shortestFrom (significand : Nat) (exponent : Int) (count : Nat) : Nat → Significant
  | 0 =>
    let whole := Binary64.fraction significand exponent
    roundSignificant 17 whole.1 whole.2
  | more + 1 =>
    match shortestAt significand exponent count with
    | some point => point
    | none => shortestFrom significand exponent (count + 1) more

/-- The fewest digits that read back as a positive double. -/
def shortest (significand : Nat) (exponent : Int) : Significant :=
  shortestFrom significand exponent 1 16

namespace Significant

/-- The digits without the zeros that end them. -/
def trimmed (number : Significant) : List Char :=
  ((digitsOf number.digits).reverse.dropWhile (· == '0')).reverse

/-- The digits around a decimal point and no exponent. -/
def plain (number : Significant) : String :=
  let digits := number.trimmed
  if number.exponent < 0 then
    "0." ++ String.ofList (List.replicate (-number.exponent - 1).toNat '0' ++ digits)
  else
    let whole := number.exponent.toNat + 1
    if digits.length ≤ whole then
      String.ofList (digits ++ List.replicate (whole - digits.length) '0')
    else
      String.ofList (digits.take whole) ++ "." ++ String.ofList (digits.drop whole)

/-- One digit before the point, the rest after it, and the exponent. -/
def scientific (number : Significant) : String :=
  let fraction := number.trimmed.drop 1
  let point := if fraction.isEmpty then "" else "."
  String.ofList (number.trimmed.take 1) ++ point ++ String.ofList fraction ++ "e" ++
    toString number.exponent

end Significant

/-- The text of a double, given the text of a positive finite one and that of zero. -/
def signed (zero : String) (positive : Nat → Int → String) (value : Float) : String :=
  match Binary64.decode value with
  | .nan => "NaN"
  | .infinite negative => if negative then "-inf" else "inf"
  | .finite negative significand exponent =>
    let text := if significand = 0 then zero else positive significand exponent
    if negative then "-" ++ text else text

/-- The shortest digits that read back as the number, written without an exponent. -/
def plain (value : Float) : String :=
  signed "0" (fun significand exponent => (shortest significand exponent).plain) value

/-- The shortest digits that read back as the number, written with an exponent. -/
def scientific (value : Float) : String :=
  signed "0e0" (fun significand exponent => (shortest significand exponent).scientific) value

/-- A count of units of the last place with a decimal point set before the places. -/
def placed (places units : Nat) : String :=
  let digits := digitsOf units
  let padded := List.replicate (places + 1 - digits.length) '0' ++ digits
  let whole := padded.length - places
  let fraction := padded.drop whole
  String.ofList (padded.take whole) ++
    if fraction.isEmpty then "" else "." ++ String.ofList fraction

/-- A set number of decimal places; a number that rounds to zero keeps its sign. -/
def fixed (places : Nat) (value : Float) : String :=
  signed (placed places 0) (fun significand exponent =>
    let whole := Binary64.fraction significand exponent
    placed places (roundPlaces places whole.1 whole.2)) value

/-- A set number of significant digits with an exponent, zeros at the end dropped. -/
def significant (count : Nat) (value : Float) : String :=
  signed "0" (fun significand exponent =>
    let whole := Binary64.fraction significand exponent
    (roundSignificant count whole.1 whole.2).scientific) value

end Decimal

instance : Numeral Float where
  plain := Decimal.plain
  scientific := Decimal.scientific

end LoopbackCalibration
