import LoopbackCalibration.Scalar.Binary64

/-! # Reading numbers

`readCount?` reads a whole number below a limit and `readReal?` a double. Both
take the whole text: nothing may surround the number. A plus sign is allowed on
either; a real also has a minus sign, a point with digits on at least one side,
an exponent, and the words for infinity and for what is not a number in any
case. A real is the double nearest to the decimal number, infinite beyond the
range.
-/

namespace LoopbackCalibration

namespace Decimal

/-- The first number that an unsigned 32-bit word cannot hold. -/
def limit32 : Nat := 2 ^ (32 : Nat)

/-- The first number that an unsigned 64-bit word cannot hold. -/
def limit64 : Nat := 2 ^ (64 : Nat)

/-- The number that digits are written for. -/
def ofDigits (digits : List Char) : Nat :=
  digits.foldl (fun value digit => 10 * value + (digit.toNat - '0'.toNat)) 0

/-- The digits at the front of a text, and the rest of it. -/
def spanDigits (text : List Char) : List Char × List Char :=
  (text.takeWhile Char.isDigit, text.dropWhile Char.isDigit)

/-- A whole number below a limit, with or without a plus sign. -/
def readCount? (limit : Nat) (text : List Char) : Option Nat :=
  let digits := match text with
    | '+' :: rest => rest
    | _ => text
  if digits.isEmpty || !digits.all Char.isDigit then
    none
  else
    let value := ofDigits digits
    if value < limit then some value else none

/-- A sign, if there is one, and what follows it. The sign is true for minus. -/
def spanSign : List Char → Bool × List Char
  | '-' :: rest => (true, rest)
  | '+' :: rest => (false, rest)
  | text => (false, text)

/-- The exponent that ends a real: nothing, or a letter, a sign and digits. -/
def readExponent? : List Char → Option Int
  | [] => some 0
  | letter :: rest =>
    let signed := spanSign rest
    if (letter = 'e' || letter = 'E') && !signed.2.isEmpty && signed.2.all Char.isDigit then
      let magnitude : Int := ofDigits signed.2
      some (if signed.1 then -magnitude else magnitude)
    else
      none

/-- The infinity of a sign. -/
def infinite (negative : Bool) : Float :=
  if negative then (-1.0) / 0.0 else 1.0 / 0.0

/-- A number without its sign: digits with or without a point, and then an exponent or nothing. -/
def readMagnitude? (negative : Bool) (text : List Char) : Option Float :=
  let whole := spanDigits text
  let fraction := match whole.2 with
    | '.' :: rest => spanDigits rest
    | rest => ([], rest)
  if whole.1.isEmpty && fraction.1.isEmpty then
    none
  else
    (readExponent? fraction.2).map fun exponent =>
      Binary64.ofDecimal negative (ofDigits (whole.1 ++ fraction.1))
        (exponent - (fraction.1.length : Int))

/-- The double nearest to the real that the whole text stands for. -/
def readReal? (text : List Char) : Option Float :=
  let signed := spanSign text
  let word := String.ofList (signed.2.map Char.toLower)
  if word = "inf" ∨ word = "infinity" then
    some (infinite signed.1)
  else if word = "nan" then
    some (0.0 / 0.0)
  else
    readMagnitude? signed.1 signed.2

end Decimal

end LoopbackCalibration
