import LoopbackCalibration.Program.CommandLine
import LoopbackCalibration.Program.FileTree
import LoopbackCalibration.Report.Written
import LoopbackCalibration.Settings.File
import LoopbackCalibration.Simulator

/-! # The program

The program reads its settings, calibrates the device they name and writes the report.
What it needs of its surroundings is a `Host`: the files, the variables and a clock.
-/

namespace LoopbackCalibration

/-- What the program needs of its surroundings. -/
structure Host (m : Type → Type) where
  readFile : String → m (Except FileFault String)
  makeDirectories : String → m (Except FileFault Unit)
  writeFile : String → String → m (Except FileFault Unit)
  lookUp : String → m (Option String)
  /-- Read the clock, in nanoseconds. -/
  clock : m Nat

/-- How the program ends. -/
inductive Ending where
  | help
  | version
  | usage
  /-- It failed, for the first of these reasons because of the next and so on. -/
  | failed (causes : List String)
  | overflow
  | finished (elapsed : Duration)
  deriving Repr, DecidableEq

namespace Ending

/-- The exit code of the program. -/
def code : Ending → Nat
  | .help | .version | .finished _ => 0
  | .failed _ => 1
  | .usage => 2
  | .overflow => 101

/-- What the program writes to its output. -/
def output : Ending → String
  | .help => CommandLine.helpText
  | .version => CommandLine.versionText
  | .finished elapsed => s!"Cal took {Decimal.fixed 3 elapsed.seconds} seconds\n"
  | _ => ""

/-- A text with blanks in front of every line but the first. -/
def indent (width : Nat) (text : String) : String :=
  ("\n" ++ String.ofList (List.replicate width ' ')).intercalate
    ((Text.split '\n' text.toList).map String.ofList)

/-- A number set flush right in five columns. -/
def column (number : Nat) : String :=
  let digits := toString number
  String.ofList (List.replicate (5 - digits.length) ' ') ++ digits

/-- The causes of an error: one on its own, more with numbers. -/
def causeLines : List String → String
  | [] => ""
  | [cause] => "\n\nCaused by:\n    " ++ indent 4 cause
  | causes =>
    "\n\nCaused by:" ++ String.join (causes.zipIdx.map fun (cause, index) =>
      "\n" ++ column index ++ ": " ++ indent 7 cause)

/-- What the program writes to its error output. -/
def errorOutput : Ending → String
  | .failed (first :: causes) => "Error: " ++ first ++ causeLines causes ++ "\n"
  | .usage => "error: the command line is not understood\n\n" ++
      "Usage: loopcal [OPTIONS] --freq-start <HZ>\n\nFor more information, try '--help'.\n"
  | _ => ""

end Ending

namespace Program

/-- Calibrate the device that the settings name. -/
def calibrate (settings : Settings) (frequency : Float) (stopRequested : Bool) :
    Except (Halt ProgramError) (Outcome Float) :=
  if !(frequency.isFinite && 0 < frequency) then
    .error (.error (.argument s!"--freq-start must be a positive frequency in Hz, got {
      Decimal.plain frequency}"))
  else
    let arguments := DeviceArguments.parse settings.arguments
    if !arguments.isSimulated then
      .error (.error (.device (.unsupported ("no hardware backend for `" ++ arguments.display ++
        "`; build with `--features soapy` or pass `--args driver=sim`"))))
    else
      match LoopbackModel.ofArguments arguments, Calibration.accept settings.calibration with
      | .error cause, _ => .error (.error (.device cause))
      | _, .error cause => .error (.error (.calibration cause))
      | .ok model, .ok config =>
        let rig := Rig.ofDevice Simulator.transceiver fun _ => false
        let host := { Hosted.start (Simulator.ofModel model) with stopRequested }
        match Calibration.run rig config frequency (.start host) with
        | (.ok outcome, _) => .ok outcome
        | (.error halt, _) => .error (halt.map .calibration)

variable {m : Type → Type} [Monad m]

/-- An action whose refusal stops the program. -/
def orStop {β : Type} (wrap : FileFault → ProgramError) (action : m (Except FileFault β)) :
    ExceptT (Halt ProgramError) m β := do
  match ← ExceptT.lift action with
  | .ok value => return value
  | .error fault => throw (.error (wrap fault))

/-- Make the report directory and write both files of the report into it. -/
def writeReport (host : Host m) (directory : String) (config : Config Float)
    (outcome : Outcome Float) : ExceptT (Halt ProgramError) m Unit := do
  orStop .storage (host.makeDirectories directory)
  match CaptureSpectrum.all config outcome.captures with
  | .error failure => throw (.error (.report failure.message))
  | .ok spectra =>
    orStop .table (host.writeFile (Path.join directory Report.tableFile)
      (Report.table config spectra))
    match Report.summary? config outcome spectra with
    | none => throw .overflow
    | some summary =>
      orStop .storage (host.writeFile (Path.join directory Report.summaryFile)
        (summary.document fun _ => JsonValue.shortest))

/-- The settings of a file, or the standard ones if none is named. -/
def readSettings (host : Host m) (file : Option String) :
    ExceptT (Halt ProgramError) m Settings :=
  match file with
  | none => return .standard
  | some path => do
    let contents ← orStop
      (fun fault => .settingsFile s!"Failed to read {path}: {fault.message}") (host.readFile path)
    match Settings.ofFile contents with
    | .ok settings => return settings
    | .error cause => throw (.error cause)

/-- The environment variables that settings are read from. -/
def variableNames : List String :=
  ["LOOPCAL_ARGS", "LOOPCAL_LOG_LEVEL", "LOOPCAL_REPORT_DIR", Settings.samplesVariable]

/-- The settings from all layers. -/
def buildSettings (host : Host m) (options : SettingOptions) :
    ExceptT (Halt ProgramError) m Settings := do
  let settings ← readSettings host options.file
  let values ← ExceptT.lift (variableNames.mapM fun name => do
    return (name, ← host.lookUp name))
  let lookup (name : String) : Option String := (values.lookup name).join
  match settings.after (Settings.applyLayers lookup options) with
  | .ok settings => return settings
  | .error cause => throw (.error cause)

/-- The ending of a failure, told in a context. -/
def failure (context : List String) : Halt ProgramError → Ending
  | .error cause => .failed (context ++ cause.causes)
  | .overflow => .overflow

/-- Calibrate at a frequency and write the report if one is wanted. -/
def perform (host : Host m) (settings : Settings) (frequency : Float) (report : Bool) :
    m Ending := do
  let started ← host.clock
  match calibrate settings frequency false with
  | .error halt =>
    return failure [s!"calibration at {Decimal.plain frequency} Hz failed"] halt
  | .ok outcome =>
    let finished ← host.clock
    let outcome := { outcome with elapsed := ⟨finished - started⟩ }
    let written ← if report then
        writeReport host settings.reportDirectory settings.calibration outcome
      else
        pure (.ok ())
    match written with
    | .error halt => return failure ["writing the diagnostic report failed"] halt
    | .ok _ => return .finished outcome.elapsed

/-- Run the program with its command line. -/
def run (host : Host m) (arguments : List String) : m Ending := do
  match CommandLine.parse arguments with
  | .help => return .help
  | .version => return .version
  | .invalid => return .usage
  | .calibrate frequency options report =>
    match ← buildSettings host options with
    | .error halt => return failure [] halt
    | .ok settings => perform host settings frequency report

/-- A file tree and variables as surroundings. No time passes there. -/
def ofTree (environment : List (String × String)) : Host (StateM FileTree) where
  readFile path := do return (← get).readFile path
  makeDirectories path := FileTree.makeDirectories path
  writeFile path contents := do
    match (← get).writeFile path contents with
    | .ok tree => set tree; return .ok ()
    | .error fault => return .error fault
  lookUp name := return environment.lookup name
  clock := return 0

end Program

end LoopbackCalibration
