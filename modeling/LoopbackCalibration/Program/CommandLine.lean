import LoopbackCalibration.Decimal.Reader
import LoopbackCalibration.Settings.Basic
import LoopbackCalibration.Text.Blank

/-! # The command line

Arguments are flags, which stand alone, and options, which have a value: behind an
equals sign, directly behind a one-letter name, or as the next argument unless that
begins with a dash. One-letter names may share a dash. Every flag and option may be
given once, nothing else may stand on the line, and a frequency has to be given. A
request for help or for the version is answered at once, whatever follows it.
-/

namespace LoopbackCalibration

namespace CommandLine

/-- An argument that stands alone. -/
inductive Flag where
  | verbose
  | noReport
  | help
  | version
  deriving Repr, DecidableEq

/-- An argument with a value. -/
inductive ValueOption where
  | arguments
  | frequency
  | file
  | logLevel
  | reportDirectory
  deriving Repr, DecidableEq

/-- What a name stands for. -/
inductive Name where
  | flag (flag : Flag)
  | option (option : ValueOption)
  deriving Repr, DecidableEq

/-- What a long name stands for. -/
def long? : String → Option Name
  | "args" => some (.option .arguments)
  | "freq-start" => some (.option .frequency)
  | "config" => some (.option .file)
  | "log-level" => some (.option .logLevel)
  | "report-dir" => some (.option .reportDirectory)
  | "verbose" => some (.flag .verbose)
  | "no-report" => some (.flag .noReport)
  | "help" => some (.flag .help)
  | "version" => some (.flag .version)
  | _ => none

/-- What a one-letter name stands for. -/
def short? : Char → Option Name
  | 'c' => some (.option .file)
  | 'v' => some (.flag .verbose)
  | 'h' => some (.flag .help)
  | 'V' => some (.flag .version)
  | _ => none

/-- What the line has said so far. -/
structure Draft where
  frequency : Option Float := none
  settings : SettingOptions := {}
  noReport : Bool := false

/-- What the program is asked to do. -/
inductive Request where
  | calibrate (frequency : Float) (settings : SettingOptions) (report : Bool)
  | help
  | version
  | invalid

/-- Whether nothing was given before. -/
def absent {β : Type} (given : Option β) : Bool := given.isNone

/-- The draft with the value of an option, unless the option was given before or cannot
have this value. -/
def Draft.set (draft : Draft) (option : ValueOption) (value : String) : Option Draft :=
  let settings := draft.settings
  match option with
  | .arguments =>
    if absent settings.arguments then
      some { draft with settings := { settings with arguments := some value } }
    else none
  | .frequency =>
    if absent draft.frequency then
      (Decimal.readReal? value.toList).map fun frequency =>
        { draft with frequency := some frequency }
    else none
  | .file =>
    if absent settings.file && value ≠ "" then
      some { draft with settings := { settings with file := some value } }
    else none
  | .logLevel =>
    if absent settings.logLevel then
      some { draft with settings := { settings with logLevel := some value } }
    else none
  | .reportDirectory =>
    if absent settings.reportDirectory && value ≠ "" then
      some { draft with settings := { settings with reportDirectory := some value } }
    else none

/-- How reading goes on behind an argument. -/
inductive Course where
  | onward (draft : Draft)
  | awaiting (option : ValueOption) (draft : Draft)
  | stop (request : Request)

/-- Go on with a draft; without one the line is wrong. -/
def Course.ofDraft? : Option Draft → Course
  | some draft => .onward draft
  | none => .stop .invalid

/-- Take a flag. Help and the version are answered at once; the others may be given once. -/
def Draft.raise (draft : Draft) : Flag → Course
  | .verbose =>
    if draft.settings.verbose then .stop .invalid
    else .onward { draft with settings := { draft.settings with verbose := true } }
  | .noReport =>
    if draft.noReport then .stop .invalid else .onward { draft with noReport := true }
  | .help => .stop .help
  | .version => .stop .version

/-- Take an argument with a long name, and with a value if it has an equals sign. -/
def Draft.takeLong (draft : Draft) (argument : List Char) : Course :=
  let parts := Text.splitOnce? '=' argument
  let name := match parts with
    | some (name, _) => name
    | none => argument
  match long? (String.ofList name), parts with
  | some (.flag flag), none => draft.raise flag
  | some (.option option), none => .awaiting option draft
  | some (.option option), some (_, value) => .ofDraft? (draft.set option (String.ofList value))
  | _, _ => .stop .invalid

/-- Take the one-letter names behind a dash. -/
def Draft.takeShort : List Char → Draft → Course
  | [], draft => .onward draft
  | letter :: rest, draft =>
    match short? letter with
    | none => .stop .invalid
    | some (.flag flag) =>
      match draft.raise flag with
      | .onward draft => takeShort rest draft
      | other => other
    | some (.option option) =>
      match rest with
      | [] => .awaiting option draft
      | '=' :: value => .ofDraft? (draft.set option (String.ofList value))
      | value => .ofDraft? (draft.set option (String.ofList value))

/-- Whether an argument begins with a dash and is more than one. -/
def isDashed (argument : List Char) : Bool :=
  match argument with
  | '-' :: _ :: _ => true
  | _ => false

/-- Take one argument. A lone pair of dashes says that no further names follow. -/
def Draft.take (draft : Draft) (argument : String) : Course :=
  match argument.toList with
  | '-' :: '-' :: name => draft.takeLong name
  | '-' :: letter :: rest => draft.takeShort (letter :: rest)
  | _ => .stop .invalid

/-- The request of a line that has been read to its end. -/
def Draft.request (draft : Draft) : Request :=
  match draft.frequency with
  | some frequency => .calibrate frequency draft.settings !draft.noReport
  | none => .invalid

/-- Take the remaining arguments. `pending` is the option that waits for its value. -/
def takeAll : List String → Option ValueOption → Draft → Request
  | [], none, draft => draft.request
  | [], some _, _ => .invalid
  | argument :: rest, some option, draft =>
    if isDashed argument.toList then
      .invalid
    else
      match draft.set option argument with
      | some draft => takeAll rest none draft
      | none => .invalid
  | argument :: rest, none, draft =>
    if argument = "--" then
      if rest.isEmpty then draft.request else .invalid
    else
      match draft.take argument with
      | .onward draft => takeAll rest none draft
      | .awaiting option draft => takeAll rest (some option) draft
      | .stop request => request

/-- What a command line asks for. -/
def parse (arguments : List String) : Request := takeAll arguments none {}

/-- The answer to a request for the version. -/
def versionText : String := "loopcal 0.1.0\n"

/-- The answer to a request for help. -/
def helpText : String :=
  "Calibrate a dual-channel transceiver over its internal loopback\n\n" ++
  "Usage: loopcal [OPTIONS] --freq-start <HZ>\n\n" ++
  "Options:\n" ++
  "      --args <ARGS>            Device construction arguments " ++
  "(e.g. `driver=lime` or `driver=sim,seed=7`)\n" ++
  "      --freq-start <HZ>        RF frequency to calibrate at (Hz)\n" ++
  "  -c, --config <FILE>          Configuration file path (TOML format)\n" ++
  "      --log-level <LOG_LEVEL>  Log level (trace, debug, info, warn, error)\n" ++
  "  -v, --verbose                Enable debug output\n" ++
  "      --report-dir <DIR>       Directory for spectrum.csv and summary.json\n" ++
  "      --no-report              Skip the diagnostic report\n" ++
  "  -h, --help                   Print help\n" ++
  "  -V, --version                Print version\n"

end CommandLine

end LoopbackCalibration
