import LoopbackCalibration.Text.Reader

/-! # Blanks, comments, strings and keys

The smallest parts of a settings file. Text inside comments and strings may hold
every character but control characters other than the tab. A line ends with a line
feed, before which a carriage return may stand; a carriage return alone is never
allowed. Strings come in four forms: with and without escapes, on one line and over
several.
-/

namespace LoopbackCalibration

namespace Toml

open Text

/-- A blank within a line. -/
def isBlank (character : Char) : Bool :=
  character == ' ' || character == '\t'

/-- A character that a comment or a text may hold. -/
def isText (character : Char) : Bool :=
  character == '\t' || (' ' ≤ character && character ≠ '\x7f')

/-- A hexadecimal digit. -/
def isHexDigit (character : Char) : Bool :=
  character.isDigit || ('a' ≤ character && character ≤ 'f') ||
    ('A' ≤ character && character ≤ 'F')

/-- The value of a digit up to sixteen. -/
def digitValue (character : Char) : Nat :=
  if character.isDigit then character.toNat - '0'.toNat
  else if 'a' ≤ character then character.toNat - 'a'.toNat + 10
  else character.toNat - 'A'.toNat + 10

/-- The number that digits of a base stand for. -/
def digitsValue (base : Nat) (digits : List Char) : Nat :=
  digits.foldl (fun value digit => base * value + digitValue digit) 0

/-- Blanks, possibly none. -/
def blanks : Reader Unit := do
  let _ ← Reader.takeWhile isBlank

/-- A line feed, with or without a carriage return in front. -/
def newline : Reader Unit
  | '\n' :: rest => some ((), rest)
  | '\r' :: '\n' :: rest => some ((), rest)
  | _ => none

/-- A comment up to the end of its line. -/
def comment : Reader Unit := do
  Reader.character '#'
  let _ ← Reader.takeWhile isText

/-- The end of a line or of the file. -/
def lineEnd : Reader Unit := newline <|> Reader.atEnd

/-- What may stand behind an entry on its line. -/
def lineRest : Reader Unit := do
  blanks
  let _ ← Reader.optional comment
  lineEnd

/-- Blanks, line ends and comments, possibly none. -/
def spacing : Reader Unit := do
  let _ ← Reader.many (Reader.one isBlank *> pure () <|> newline <|> comment)

/-- The character with the number that hexadecimal digits stand for, if there is one. -/
def codePoint? (digits : List Char) : Option Char :=
  let code := digitsValue 16 digits
  if digits.all isHexDigit && (code < 0xD800 || (0xDFFF < code && code ≤ 0x10FFFF)) then
    some (Char.ofNat code)
  else
    none

/-- The character that a letter stands for behind a backslash. -/
def escape? : Char → Option Char
  | 'b' => some '\x08'
  | 't' => some '\t'
  | 'n' => some '\n'
  | 'f' => some '\x0c'
  | 'r' => some '\r'
  | '"' => some '"'
  | '\\' => some '\\'
  | _ => none

/-- A character put in front of what was read after it. -/
def prepend (character : Char) : List Char × List Char → List Char × List Char
  | (characters, rest) => (character :: characters, rest)

/-- What stands after the opening quote of a string with escapes, and what follows the
closing quote. -/
def quotedBody : Reader (List Char)
  | [] => none
  | '"' :: rest => some ([], rest)
  | '\\' :: 'u' :: a :: b :: c :: d :: rest => do
    let character ← codePoint? [a, b, c, d]
    (quotedBody rest).map (prepend character)
  | '\\' :: 'U' :: a :: b :: c :: d :: e :: f :: g :: h :: rest => do
    let character ← codePoint? [a, b, c, d, e, f, g, h]
    (quotedBody rest).map (prepend character)
  | '\\' :: letter :: rest => do
    let character ← escape? letter
    (quotedBody rest).map (prepend character)
  | character :: rest =>
    if isText character && character ≠ '\\' then
      (quotedBody rest).map (prepend character)
    else
      none

/-- A string with escapes on one line. -/
def quoted : Reader (List Char) := do
  Reader.character '"'
  quotedBody

/-- A string without escapes on one line. -/
def literal : Reader (List Char) := do
  Reader.character '\''
  let characters ← Reader.takeWhile fun character => isText character && character ≠ '\''
  Reader.character '\''
  return characters

/-- Where the body of a string over several lines stands. -/
inductive BlockPlace where
  | within
  /-- Behind a backslash and blanks, where the line has to end. -/
  | lineEnding
  /-- Behind such a line end, where blanks and further line ends are dropped. -/
  | dropping
  deriving Repr, DecidableEq

/-- What stands before the closing quotes of a string with escapes over several lines,
and what follows them. Up to two quotes may stand directly before the closing ones. -/
def blockBody : BlockPlace → Reader (List Char)
  | _, [] => none
  | .lineEnding, '\n' :: rest => blockBody .dropping rest
  | .lineEnding, '\r' :: '\n' :: rest => blockBody .dropping rest
  | .lineEnding, character :: rest =>
    if isBlank character then blockBody .lineEnding rest else none
  | _, '"' :: '"' :: '"' :: '"' :: '"' :: rest => some (['"', '"'], rest)
  | _, '"' :: '"' :: '"' :: '"' :: rest => some (['"'], rest)
  | _, '"' :: '"' :: '"' :: rest => some ([], rest)
  | _, '\\' :: 'u' :: a :: b :: c :: d :: rest => do
    let character ← codePoint? [a, b, c, d]
    (blockBody .within rest).map (prepend character)
  | _, '\\' :: 'U' :: a :: b :: c :: d :: e :: f :: g :: h :: rest => do
    let character ← codePoint? [a, b, c, d, e, f, g, h]
    (blockBody .within rest).map (prepend character)
  | _, '\\' :: '\n' :: rest => blockBody .dropping rest
  | _, '\\' :: '\r' :: '\n' :: rest => blockBody .dropping rest
  | _, '\\' :: letter :: rest =>
    if isBlank letter then
      blockBody .lineEnding rest
    else do
      let character ← escape? letter
      (blockBody .within rest).map (prepend character)
  | place, '\r' :: '\n' :: rest =>
    if place = .dropping then blockBody .dropping rest
    else (blockBody .within rest).map (prepend '\n')
  | place, character :: rest =>
    if place = .dropping && (isBlank character || character == '\n') then
      blockBody .dropping rest
    else if (isText character && character ≠ '\\') || character == '\n' then
      (blockBody .within rest).map (prepend character)
    else
      none

/-- A string with escapes over several lines. A line end right behind the opening
quotes does not count. -/
def block : Reader (List Char) := do
  Reader.word ['"', '"', '"']
  let _ ← Reader.optional newline
  blockBody .within

/-- What stands before the closing quotes of a string without escapes over several
lines, and what follows them. -/
def literalBlockBody : Reader (List Char)
  | [] => none
  | '\'' :: '\'' :: '\'' :: '\'' :: '\'' :: rest => some (['\'', '\''], rest)
  | '\'' :: '\'' :: '\'' :: '\'' :: rest => some (['\''], rest)
  | '\'' :: '\'' :: '\'' :: rest => some ([], rest)
  | '\r' :: '\n' :: rest => (literalBlockBody rest).map (prepend '\n')
  | character :: rest =>
    if isText character || character == '\n' then
      (literalBlockBody rest).map (prepend character)
    else
      none

/-- A literal text over several lines; a line end right at its start does not count. -/
def literalBlock : Reader (List Char) := do
  Reader.word ['\'', '\'', '\'']
  let _ ← Reader.optional newline
  literalBlockBody

/-- A text in any of its four forms. -/
def string : Reader String :=
  String.ofList <$> (block <|> quoted <|> literalBlock <|> literal)

/-- A character that a key may hold without quotation marks. -/
def isBare (character : Char) : Bool :=
  character.isAlphanum || character == '-' || character == '_'

/-- A key without quotation marks. -/
def bareKey : Reader (List Char) := do
  let first ← Reader.one isBare
  let rest ← Reader.takeWhile isBare
  return first :: rest

/-- One part of a dotted key, with blanks around it. -/
def keyPart : Reader String := do
  blanks
  let part ← quoted <|> literal <|> bareKey
  blanks
  return String.ofList part

/-- The most parts that a key may have. -/
def maxKeyParts : Nat := 79

/-- A key: the path before its last part, and the last part. -/
def key : Reader (List String × String) := do
  let parts ← Reader.separated keyPart (Reader.character '.')
  if parts.length ≤ maxKeyParts then
    match parts.getLast? with
    | some last => return (parts.dropLast, last)
    | none => failure
  else
    failure

end Toml

end LoopbackCalibration
