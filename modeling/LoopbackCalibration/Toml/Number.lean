import LoopbackCalibration.Decimal.Reader
import LoopbackCalibration.Toml.Lexical
import LoopbackCalibration.Toml.Value

/-! # Numbers and times

A number may have single underscores between its digits. Whole numbers are signed
64-bit words, decimal ones without zeros in front; a real number has a fraction or an
exponent, and one that is too large is refused. Of a date or a time only its
correctness is kept.
-/

namespace LoopbackCalibration

namespace Toml

open Text

/-- Further digits, each alone or behind an underscore. -/
def moreDigits (isDigit : Char → Bool) : List Char → List Char × List Char
  | '_' :: digit :: rest =>
    if isDigit digit then prepend digit (moreDigits isDigit rest) else ([], '_' :: digit :: rest)
  | digit :: rest =>
    if isDigit digit then prepend digit (moreDigits isDigit rest) else ([], digit :: rest)
  | [] => ([], [])

/-- Digits with underscores between them; the digits alone are given. -/
def digits (isDigit : Char → Bool) : Reader (List Char) := do
  let first ← Reader.one isDigit
  let rest ← fun text => some (moreDigits isDigit text)
  return first :: rest

/-- A sign, or none. -/
def sign : Reader (List Char) := do
  let found ← Reader.optional (Reader.one fun character => character == '+' || character == '-')
  return found.toList

/-- A decimal whole number without zeros in front. -/
def decimal : Reader (List Char) :=
  Reader.character '0' *> pure ['0'] <|> digits Char.isDigit

/-- A whole number, if it fits a signed 64-bit word. -/
def word? (negative : Bool) (magnitude : Nat) : Option Value :=
  let value : Int := if negative then -(magnitude : Int) else magnitude
  if -2 ^ (63 : Nat) ≤ value ∧ value < 2 ^ (63 : Nat) then some (.integer value) else none

/-- A whole number in a base of its own, behind a zero and a letter. -/
def based (letter : Char) (base : Nat) (isDigit : Char → Bool) : Reader Value := do
  Reader.word ['0', letter]
  let found ← digits isDigit
  StateT.lift (word? false (digitsValue base found))

/-- An integer, with a base in front or in decimal digits. -/
def integer : Reader Value :=
  based 'x' 16 isHexDigit <|>
  based 'o' 8 (fun digit => '0' ≤ digit && digit ≤ '7') <|>
  based 'b' 2 (fun digit => digit == '0' || digit == '1') <|> do
    let sign ← sign
    let found ← decimal
    StateT.lift (word? (sign == ['-']) (digitsValue 10 found))

/-- A point and digits. -/
def fraction : Reader (List Char) := do
  Reader.character '.'
  let found ← digits Char.isDigit
  return '.' :: found

/-- The letter of an exponent, its sign and its digits. -/
def exponent : Reader (List Char) := do
  let letter ← Reader.one fun character => character == 'e' || character == 'E'
  let sign ← sign
  let found ← digits Char.isDigit
  return letter :: sign ++ found

/-- What makes a number a real one: an exponent, or a fraction that may have one. -/
def realPart : Reader (List Char) :=
  exponent <|> do
    let found ← fraction
    let exponent ← Reader.optional exponent
    return found ++ exponent.getD []

/-- An infinity, or a value that is not a number. -/
def specialReal : Reader Value := do
  let sign ← sign
  let negative := sign == ['-']
  (Reader.word ['i', 'n', 'f'] *> pure (.real (Decimal.infinite negative))) <|>
    (Reader.word ['n', 'a', 'n'] *> pure (.real (0.0 / 0.0)))

/-- A real number. One that exceeds the range upwards is refused. -/
def real : Reader Value :=
  (do
    let sign ← sign
    let whole ← decimal
    let part ← realPart
    let value ← StateT.lift (Decimal.readReal? (sign ++ whole ++ part))
    if value == Decimal.infinite false then failure else return .real value) <|>
  specialReal

/-- A number of so many digits between two bounds. -/
def bounded (count low high : Nat) : Reader Nat :=
  fun text =>
    let found := text.take count
    let value := digitsValue 10 found
    if found.length = count ∧ found.all Char.isDigit = true ∧ low ≤ value ∧ value ≤ high then
      some (value, text.drop count)
    else
      none

/-- How many days a month of a year has. -/
def daysIn (year month : Nat) : Nat :=
  if month = 2 then
    if year % 4 = 0 ∧ (year % 100 ≠ 0 ∨ year % 400 = 0) then 29 else 28
  else if month ∈ [4, 6, 9, 11] then
    30
  else
    31

/-- A date. -/
def date : Reader Unit := do
  let year ← bounded 4 0 9999
  Reader.character '-'
  let month ← bounded 2 1 12
  Reader.character '-'
  let _ ← bounded 2 1 (daysIn year month)

/-- A time of day, down to the second and with any fraction of it. -/
def time : Reader Unit := do
  let _ ← bounded 2 0 23
  Reader.character ':'
  let _ ← bounded 2 0 59
  Reader.character ':'
  let _ ← bounded 2 0 60
  let point ← Reader.optional (Reader.character '.')
  if point.isSome then
    let _ ← Reader.one Char.isDigit
    let _ ← Reader.takeWhile Char.isDigit

/-- How far a clock is from the universal time. -/
def offset : Reader Unit :=
  Reader.one (fun letter => letter == 'Z' || letter == 'z') *> pure () <|> do
    let _ ← Reader.one fun character => character == '+' || character == '-'
    let _ ← bounded 2 0 23
    Reader.character ':'
    let _ ← bounded 2 0 59

/-- The time that may follow a date. -/
def timeOfDate : Reader Unit := do
  let _ ← Reader.one fun letter => letter == 'T' || letter == 't' || letter == ' '
  time
  let _ ← Reader.optional offset

/-- A date, a time, or both. -/
def datetime : Reader Value :=
  (do
    date
    let _ ← Reader.optional timeOfDate
    return .datetime) <|> do
  time
  return .datetime

/-- A date or time, a real number or an integer. -/
def numeric : Reader Value := datetime <|> real <|> integer

end Toml

end LoopbackCalibration
