/-! # Readers

A reader takes something off the start of a text and gives what it read together
with what follows, or gives nothing and leaves the text to another reader.
-/

namespace LoopbackCalibration

namespace Text

/-- Reads a value at the start of a text. -/
abbrev Reader (β : Type) : Type := StateT (List Char) Option β

namespace Reader

variable {β γ : Type}

/-- What a reader makes of a text: the value and what follows it. -/
def read (reader : Reader β) (text : List Char) : Option (β × List Char) :=
  reader text

/-- What a reader makes of a whole text. -/
def readAll (reader : Reader β) (text : List Char) : Option β :=
  match reader text with
  | some (value, []) => some value
  | _ => none

/-- Exactly the given character. -/
def character (expected : Char) : Reader Unit
  | actual :: rest => if actual = expected then some ((), rest) else none
  | [] => none

/-- Exactly the given characters. -/
def word : List Char → Reader Unit
  | [] => pure ()
  | first :: rest => do
    character first
    word rest

/-- One allowed character. -/
def one (allowed : Char → Bool) : Reader Char
  | actual :: rest => if allowed actual then some (actual, rest) else none
  | [] => none

/-- All allowed characters at the front, possibly none. -/
def takeWhile (allowed : Char → Bool) : Reader (List Char) :=
  fun text => some (text.takeWhile allowed, text.dropWhile allowed)

/-- What the reader reads, or nothing. -/
def optional (reader : Reader β) : Reader (Option β) :=
  fun text =>
    match reader text with
    | some (value, rest) => some (some value, rest)
    | none => some (none, text)

/-- What is read as often as a reader can, at most a number of times. -/
def upTo : Nat → Reader β → Reader (List β)
  | 0, _ => pure []
  | count + 1, reader => fun text =>
    match reader text with
    | some (value, rest) =>
      (upTo count reader rest).map fun (values, rest) => (value :: values, rest)
    | none => some ([], text)

/-- What is read as often as a reader can. A reader that takes nothing is called at
most once for each character ahead. -/
def many (reader : Reader β) : Reader (List β) :=
  fun text => upTo text.length reader text

/-- One thing or more, with a separator before each but the first. -/
def separated (element : Reader β) (separator : Reader γ) : Reader (List β) := do
  let first ← element
  let others ← many (separator *> element)
  return first :: others

/-- Nothing is left to read. -/
def atEnd : Reader Unit
  | [] => some ((), [])
  | _ => none

end Reader

end Text

end LoopbackCalibration
