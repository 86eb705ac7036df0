import LoopbackCalibration.Program.Run

/-! # The command

The program on the files, the variables and the clock of the system.
-/

namespace LoopbackCalibration

/-- Whether a refusal has a code; some calls give it with the opposite sign. -/
def FileFault.hasCode (code expected : UInt32) : Bool := code == expected || code == -expected

/-- What the system refuses. Code 21 says that a directory stands where a file is needed,
and code 36 that a name is too long. -/
def FileFault.ofSystem : IO.Error → FileFault
  | .noFileOrDirectory .. => .notFound
  | .alreadyExists .. => .alreadyExists
  | .inappropriateType _ code _ => if hasCode code 21 then .isDirectory else .notDirectory
  | refusal@(.invalidArgument _ code _) =>
    if hasCode code 36 then .nameTooLong else .other (toString refusal)
  | refusal => .other (toString refusal)

/-- An action of the system on a path, with its refusal as a value. -/
def refusing {β : Type} (path : String) (action : IO β) : IO (Except FileFault β) := do
  if let .error fault := Path.check path then
    return .error fault
  try
    return .ok (← action)
  catch fault =>
    return .error (.ofSystem fault)

/-- Making directories in the system. A directory is known by its entry for itself, which
is there already. -/
def systemDirectories : DirectoryCalls IO where
  make path := refusing path (IO.FS.createDir path)
  isDirectory path := do
    match ← refusing path (IO.FS.createDir (path ++ "/.")) with
    | .error .alreadyExists => return true
    | _ => return false

/-- The system as surroundings of the program. -/
def system : Host IO where
  readFile path := refusing path (IO.FS.readFile path)
  makeDirectories path := systemDirectories.makeNested path
  writeFile path contents := refusing path (IO.FS.writeFile path contents)
  lookUp name := IO.getEnv name
  clock := IO.monoNanosNow

end LoopbackCalibration

/-- Run the program on the system and print how it ends. -/
def main (arguments : List String) : IO UInt32 := do
  let ending ← LoopbackCalibration.Program.run LoopbackCalibration.system arguments
  IO.print ending.output
  IO.eprint ending.errorOutput
  return UInt32.ofNat ending.code
