import LoopbackCalibration.Settings.Error
import LoopbackCalibration.Text.Blank

/-! # Paths

A path is a text of names with slashes between them. `DirectoryCalls.makeNested` makes a
directory together with those above it, wherever directories are made: it tries the
directory itself first and goes up only as far as something is missing.
-/

namespace LoopbackCalibration

namespace Path

/-- The names in a path. A slash at the end counts as the name of the directory itself. -/
def names (path : String) : List String :=
  let pieces := (Text.split '/' path.toList).map String.ofList
  let kept := pieces.filter (· ≠ "")
  if pieces.getLast? = some "" && !kept.isEmpty then kept ++ ["."] else kept

/-- The path without the slashes at its end. -/
def withoutSlashes (path : String) : String :=
  let trimmed := (path.toList.reverse.dropWhile (· == '/')).reverse
  if trimmed.isEmpty && path ≠ "" then "/" else String.ofList trimmed

/-- The path of the directory above, unless there is none. -/
def parent? (path : String) : Option String :=
  let kept := (names path).filter (· ≠ ".")
  if kept.isEmpty then
    none
  else
    let root := if path.startsWith "/" then "/" else ""
    some (root ++ "/".intercalate kept.dropLast)

/-- The path of a name in a directory. -/
def join (directory name : String) : String :=
  if directory = "" || directory.endsWith "/" then directory ++ name
  else directory ++ "/" ++ name

/-- The most bytes that a name may have. -/
def longestName : Nat := 255

/-- The most bytes that a path may have. -/
def longest : Nat := 4095

/-- Refuse a name that no directory can hold. -/
def checkName (name : String) : Except FileFault Unit :=
  if longestName < name.utf8ByteSize then .error .nameTooLong else .ok ()

/-- Refuse a path that leads nowhere, whatever there is. -/
def check (path : String) : Except FileFault Unit :=
  if path.toList.contains '\x00' then
    .error .endsEarly
  else if path = "" then
    .error .notFound
  else if longest < path.utf8ByteSize then
    .error .nameTooLong
  else
    .ok ()

end Path

/-- The calls by which directories are made. -/
structure DirectoryCalls (m : Type → Type) where
  make : String → m (Except FileFault Unit)
  isDirectory : String → m Bool

namespace DirectoryCalls

variable {m : Type → Type} [Monad m]

/-- Make one directory, unless there is one already. -/
def ensure (calls : DirectoryCalls m) (path : String) : m (Except FileFault Unit) := do
  match ← calls.make path with
  | .ok _ => return .ok ()
  | .error fault => return if ← calls.isDirectory path then .ok () else .error fault

/-- Make a directory, and first the directories above it as far as they are missing.
`depth` bounds how many these are. -/
def makeWithin (calls : DirectoryCalls m) (path : String) : Nat → m (Except FileFault Unit)
  | 0 => return .error .notFound
  | depth + 1 => do
    if path = "" then
      return .ok ()
    match ← calls.ensure path, Path.parent? path with
    | .error .notFound, some above =>
      match ← calls.makeWithin above depth with
      | .ok _ => calls.ensure path
      | .error fault => return .error fault
    | result, _ => return result

/-- Make a directory with all directories above it. -/
def makeNested (calls : DirectoryCalls m) (path : String) : m (Except FileFault Unit) :=
  calls.makeWithin path ((Path.names path).length + 2)

end DirectoryCalls

end LoopbackCalibration
