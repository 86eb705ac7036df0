/-! # Tables and values

A settings file is a table of named values. A table remembers how it came to be,
since that decides what may still be added to it: a table with a header of its own
or implied by another header takes further headers below it, one that a dotted key
made takes further dotted keys, and one written inline is closed.
-/

namespace LoopbackCalibration

namespace Toml

/-- How a table came to be. -/
inductive Origin where
  /-- By a header that names it, or by being the whole file. -/
  | header
  /-- By a header that names a table below it. -/
  | implied
  | dotted
  | inline
  deriving Repr, DecidableEq

/-- A value in a settings file. -/
inductive Value where
  | text (characters : String)
  | integer (value : Int)
  | real (value : Float)
  | boolean (value : Bool)
  | datetime
  | array (elements : List Value)
  | table (origin : Origin) (entries : List (String × Value))
  /-- The tables of headers in double brackets, last to first. -/
  | tables (elements : List Value)
  deriving Repr, Inhabited

/-- A table by its entries, in the order they were made. -/
structure Table where
  origin : Origin
  entries : List (String × Value)
  deriving Repr

namespace Table

/-- A table without entries. -/
def empty (origin : Origin) : Table := ⟨origin, []⟩

/-- The table as a value. -/
def value (table : Table) : Value := .table table.origin table.entries

/-- The value under a key. -/
def get? (table : Table) (key : String) : Option Value := table.entries.lookup key

/-- The table with the value of a key replaced, or with a new entry at the end. -/
def set (table : Table) (key : String) (value : Value) : Table :=
  if (table.get? key).isSome then
    { table with
      entries := table.entries.map fun entry => if entry.1 = key then (key, value) else entry }
  else
    { table with entries := table.entries ++ [(key, value)] }

/-- The table without a key. -/
def erase (table : Table) (key : String) : Table :=
  { table with entries := table.entries.filter fun entry => entry.1 != key }

/-- The origin of tables made on the way along a path. -/
def wayside (byDottedKey : Bool) : Origin :=
  if byDottedKey then .dotted else .implied

/-- Change the table at the end of a path, and make the tables on the way that are not
there. A dotted key does not enter a table that has a header, and nothing enters a
value that is not a table. Of several tables in double brackets the last is entered. -/
def within {β : Type} (byDottedKey : Bool) (change : Table → Option (β × Table)) :
    List String → Table → Option (β × Table)
  | [], table => change table
  | key :: path, table =>
    match table.get? key with
    | none => do
      let (result, child) ← within byDottedKey change path (empty (wayside byDottedKey))
      return (result, table.set key child.value)
    | some (.table origin entries) =>
      if origin = .inline || (byDottedKey && origin = .header) then
        none
      else do
        let (result, child) ← within byDottedKey change path ⟨origin, entries⟩
        return (result, table.set key child.value)
    | some (.tables (.table origin entries :: earlier)) => do
      let (result, child) ← within byDottedKey change path ⟨origin, entries⟩
      return (result, table.set key (.tables (child.value :: earlier)))
    | some _ => none

/-- Put a value under a key that the table does not have yet. -/
def insertNew (key : String) (value : Value) (table : Table) : Option (Unit × Table) :=
  match table.get? key with
  | none => some ((), table.set key value)
  | some _ => none

/-- Add a value under a dotted key. A path, if there is one, has to end at a table that
dotted keys made. -/
def addPair (table : Table) (path : List String) (key : String) (value : Value) :
    Option Table :=
  let add (target : Table) : Option (Unit × Table) :=
    if !path.isEmpty && target.origin ≠ .dotted then none else insertNew key value target
  (within true add path table).map Prod.snd

/-- Take out the table that a header names: one that is only implied so far, or a new
one. -/
def claim (table : Table) (path : List String) (key : String) : Option (Table × Table) :=
  let take (parent : Table) : Option (Table × Table) :=
    match parent.get? key with
    | none => some (empty .header, parent)
    | some (.table .implied entries) => some (⟨.header, entries⟩, parent.erase key)
    | some _ => none
  within false take path table

/-- Put a table under the header that names it. -/
def place (table : Table) (path : List String) (key : String) (child : Table) :
    Option Table :=
  (within false (insertNew key child.value) path table).map Prod.snd

/-- Make room for a list of tables under a key, where there is none yet. -/
def openTables (table : Table) (path : List String) (key : String) : Option Table :=
  let reserve (parent : Table) : Option (Unit × Table) :=
    match parent.get? key with
    | none => some ((), parent.set key (.tables []))
    | some (.tables _) => some ((), parent)
    | some _ => none
  (within false reserve path table).map Prod.snd

/-- Put one more table at the end of a list of tables. -/
def pushTable (table : Table) (path : List String) (key : String) (child : Table) :
    Option Table :=
  let push (parent : Table) : Option (Unit × Table) :=
    match parent.get? key with
    | none => some ((), parent.set key (.tables [child.value]))
    | some (.tables elements) => some ((), parent.set key (.tables (child.value :: elements)))
    | some _ => none
  (within false push path table).map Prod.snd

end Table

end Toml

end LoopbackCalibration
