import LoopbackCalibration.Decimal

/-! # JSON text

Values written as JSON, one element or field a line and two blanks for each level. A
number that is not finite is written as null. How other real numbers are written is up
to the caller, who is told the name of the field a number belongs to.
-/

namespace LoopbackCalibration

/-- A value that can be written as JSON. -/
inductive JsonValue where
  | null
  | count (value : Nat)
  | real (value : Float)
  | text (characters : String)
  | array (elements : List JsonValue)
  | object (fields : List (String × JsonValue))
  deriving Repr

namespace JsonValue

/-- The digit of a value below sixteen. -/
def hexDigit (value : Nat) : Char :=
  if value < 10 then Char.ofNat ('0'.toNat + value) else Char.ofNat ('a'.toNat + value - 10)

/-- A character as it stands in a quoted text. -/
def escape (character : Char) : List Char :=
  match character with
  | '"' => ['\\', '"']
  | '\\' => ['\\', '\\']
  | '\x08' => ['\\', 'b']
  | '\x0c' => ['\\', 'f']
  | '\n' => ['\\', 'n']
  | '\r' => ['\\', 'r']
  | '\t' => ['\\', 't']
  | other =>
    if other.toNat < 32 then
      ['\\', 'u', '0', '0', hexDigit (other.toNat / 16), hexDigit (other.toNat % 16)]
    else
      [other]

/-- A text in quotation marks. -/
def quote (characters : String) : String :=
  String.ofList ('"' :: characters.toList.flatMap escape ++ ['"'])

/-- A number with the fewest digits that read back: with a point and at least one digit
on each side from `1e-5` on and below `1e16`, and with an exponent otherwise. -/
def shortest (value : Float) : String :=
  Decimal.signed "0.0" (fun significand exponent =>
    let number := Decimal.shortest significand exponent
    if number.exponent < -5 ∨ 15 < number.exponent then
      number.scientific
    else
      let plain := number.plain
      if plain.toList.contains '.' then plain else plain ++ ".0") value

/-- A line feed and the indentation of a level. -/
def lineStart (level : Nat) : String :=
  String.ofList ('\n' :: List.replicate (2 * level) ' ')

/-- Texts between two brackets, each on a line of its own. -/
def bracketed (opening closing : String) (level : Nat) (lines : List String) : String :=
  if lines.isEmpty then
    opening ++ closing
  else
    opening ++ ",".intercalate (lines.map (lineStart (level + 1) ++ ·)) ++
      lineStart level ++ closing

variable (writeReal : String → Float → String)

mutual

/-- A value as text. `name` is the field it belongs to. -/
def render (name : String) (level : Nat) : JsonValue → String
  | .null => "null"
  | .count value => toString value
  | .real value => if value.isFinite then writeReal name value else "null"
  | .text characters => quote characters
  | .array elements => bracketed "[" "]" level (renderElements name (level + 1) elements)
  | .object fields => bracketed "\x7b" "\x7d" level (renderFields (level + 1) fields)

/-- The elements of a list, each rendered under the name of the list. -/
def renderElements (name : String) (level : Nat) : List JsonValue → List String
  | [] => []
  | element :: rest => render name level element :: renderElements name level rest

/-- The fields of an object with their names. -/
def renderFields (level : Nat) : List (String × JsonValue) → List String
  | [] => []
  | (name, value) :: rest =>
    (quote name ++ ": " ++ render name level value) :: renderFields level rest

end

/-- The text of a whole document, given how its numbers are written. -/
def document (value : JsonValue) : String := render writeReal "" 0 value

end JsonValue

end LoopbackCalibration
