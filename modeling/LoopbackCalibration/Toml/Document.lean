import LoopbackCalibration.Toml.Number

/-! # Settings files

A settings file is a sequence of lines. Each holds a key with its value, or a header
that says which table the keys below it belong to. Nothing may be defined twice.
`parse?` reads a whole file into the table of its values, or nothing when any part of
it breaks a rule.
-/

namespace LoopbackCalibration

namespace Toml

open Text

/-- How deep arrays and inline tables may be nested. -/
def maxNesting : Nat := 79

/-- One of both truth values. -/
def boolean : Reader Value :=
  (Reader.word "true".toList *> pure (.boolean true)) <|>
    (Reader.word "false".toList *> pure (.boolean false))

/-- The elements of an array and its closing bracket. -/
def arrayBody (element : Reader Value) : Reader Value := do
  let elements ← Reader.optional do
    let elements ← Reader.separated (spacing *> element <* spacing) (Reader.character ',')
    let _ ← Reader.optional (Reader.character ',')
    return elements
  spacing
  Reader.character ']'
  return .array (elements.getD [])

/-- A key, an equals sign and a value. -/
def pair (element : Reader Value) : Reader ((List String × String) × Value) := do
  let key ← key
  Reader.character '='
  blanks
  let value ← element
  return (key, value)

/-- Add keys with their values to a table. -/
def addPairs (table : Table) : List ((List String × String) × Value) → Option Table
  | [] => some table
  | ((path, key), value) :: rest => do
    let table ← table.addPair path key value
    addPairs table rest

/-- The pairs of an inline table up to its closing brace. -/
def inlineBody (element : Reader Value) : Reader Value := do
  let pairs ← Reader.optional (Reader.separated (pair element <* blanks) (Reader.character ','))
  blanks
  Reader.character '}'
  let table ← StateT.lift (addPairs (.empty .header) (pairs.getD []))
  return .table .inline table.entries

/-- A value in which arrays and inline tables are nested at most as deep as given. -/
def value : Nat → Reader Value
  | 0 => .text <$> string <|> numeric <|> boolean <|> specialReal
  | depth + 1 =>
    .text <$> string <|>
    (Reader.character '[' *> arrayBody (value depth)) <|>
    (Reader.character '{' *> inlineBody (value depth)) <|>
    numeric <|> boolean <|> specialReal

/-- The table that lines are being added to. -/
inductive Section where
  | top
  | single (path : List String) (key : String)
  | repeated (path : List String) (key : String)
  deriving Repr, DecidableEq

/-- A file as far as it has been read. -/
structure Draft where
  /-- The tables whose lines have ended. While the first lines are read it is empty. -/
  root : Table
  place : Section
  current : Table

namespace Draft

/-- A file before its first line. -/
def start : Draft := ⟨.empty .header, .top, .empty .header⟩

/-- The file with the current section ended. -/
def close (draft : Draft) : Option Table :=
  match draft.place with
  | .top => some draft.current
  | .single path key => draft.root.place path key draft.current
  | .repeated path key => draft.root.pushTable path key draft.current

/-- The file with a header read, which begins the section of its table. -/
def openSingle (draft : Draft) (path : List String) (key : String) : Option Draft := do
  let root ← draft.close
  let (current, root) ← root.claim path key
  return ⟨root, .single path key, current⟩

/-- The file with a header in double brackets read, which begins one more table of its list. -/
def openRepeated (draft : Draft) (path : List String) (key : String) : Option Draft := do
  let root ← draft.close
  let root ← root.openTables path key
  return ⟨root, .repeated path key, .empty .header⟩

/-- The file with a pair added to the current section. -/
def add (draft : Draft) (path : List String) (key : String) (value : Value) : Option Draft :=
  (draft.current.addPair path key value).map fun current => { draft with current }

end Draft

/-- What a line does to a file. -/
inductive Line where
  | blank
  | pair (path : List String) (key : String) (value : Value)
  | header (path : List String) (key : String)
  | repeatedHeader (path : List String) (key : String)

/-- A header in double brackets. -/
def repeatedHeader : Reader Line := do
  Reader.word ['[', '[']
  let (path, key) ← key
  Reader.word [']', ']']
  lineRest
  return .repeatedHeader path key

/-- A header in single brackets. -/
def header : Reader Line := do
  Reader.character '['
  let (path, key) ← key
  Reader.character ']'
  lineRest
  return .header path key

/-- A line, and the blanks in front of the next one. It is never read at the end of
the file. -/
def line : Reader Line :=
  (comment *> lineEnd *> pure .blank <|> newline *> pure .blank <|>
    repeatedHeader <|> header <|> do
      let ((path, key), value) ← pair (value maxNesting)
      lineRest
      return .pair path key value) <* blanks

/-- The file after one more line. -/
def Draft.after (draft : Draft) : Line → Option Draft
  | .blank => some draft
  | .pair path key value => draft.add path key value
  | .header path key => draft.openSingle path key
  | .repeatedHeader path key => draft.openRepeated path key

/-- The file after all its lines. -/
def Draft.afterAll (draft : Draft) : List Line → Option Draft
  | [] => some draft
  | line :: rest => do
    let draft ← draft.after line
    draft.afterAll rest

/-- All lines of a file. A mark of the byte order in front is passed over. -/
def lines : Reader (List Line) := do
  let _ ← Reader.optional (Reader.character '\uFEFF')
  blanks
  Reader.many line

/-- The table that a settings file describes. -/
def parse? (file : String) : Option Table := do
  let lines ← Reader.readAll lines file.toList
  let draft ← Draft.start.afterAll lines
  draft.close

end Toml

end LoopbackCalibration
