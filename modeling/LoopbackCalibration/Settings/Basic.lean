import LoopbackCalibration.Calibration.Run
import LoopbackCalibration.Decimal.Reader
import LoopbackCalibration.Settings.Error
import LoopbackCalibration.Settings.LogLevel
import LoopbackCalibration.Text.Blank

/-! # Settings of the program

The settings come in layers: a file or the standard settings first, then variables of
the environment, then options of the command line. A later layer wins. The layers are
actions on the settings, because what a layer has changed before it fails stays
changed.
-/

namespace LoopbackCalibration

/-- Settings of the program. -/
structure Settings where
  arguments : String
  logLevel : LogLevel
  reportDirectory : String
  calibration : Config Float
  deriving Repr

/-- What the command line says about the settings. -/
structure SettingOptions where
  file : Option String := none
  arguments : Option String := none
  logLevel : Option String := none
  /-- Whether to tell more when no level is given. -/
  verbose : Bool := false
  reportDirectory : Option String := none
  deriving Repr, DecidableEq

namespace Settings

/-- The settings that hold unless others are given. -/
def standard : Settings := ⟨"", .info, "./loopcal-report", .standard⟩

/-- The log level that a word names. -/
def readLevel (word : String) : Except ProgramError LogLevel :=
  match LogLevel.ofText? word with
  | some level => .ok level
  | none => .error (.logLevel word)

/-- The variable that sets the samples of a capture. -/
def samplesVariable : String := "LOOPCAL_SAMPLES_PER_CAPTURE"

/-- A count of samples from the variable, blanks around it aside. -/
def readSamples (text : String) : Except ProgramError Nat :=
  match Decimal.readCount? Decimal.limit64 (Text.trim text.toList) with
  | some samples => .ok samples
  | none => .error (.environment s!"{samplesVariable}={text} is not a count")

/-- Change the settings by a value that may be missing or unreadable. -/
def override {β : Type} (given : Option String) (read : String → Except ProgramError β)
    (update : Settings → β → Settings) : Action Settings ProgramError Unit :=
  fun settings =>
    match given with
    | none => (.ok (), settings)
    | some text =>
      match read text with
      | .ok value => (.ok (), update settings value)
      | .error cause => (.error cause, settings)

/-- The settings with those that the environment gives. -/
def applyVariables (lookup : String → Option String) : Action Settings ProgramError Unit := do
  override (lookup "LOOPCAL_ARGS") .ok fun settings arguments => { settings with arguments }
  override (lookup "LOOPCAL_LOG_LEVEL") readLevel fun settings logLevel =>
    { settings with logLevel }
  override (lookup "LOOPCAL_REPORT_DIR") .ok fun settings reportDirectory =>
    { settings with reportDirectory }
  override (lookup samplesVariable) readSamples fun settings samplesPerCapture =>
    { settings with calibration := { settings.calibration with samplesPerCapture } }

/-- The settings with those that the command line gives. A log level goes before the verbose flag.
-/
def applyOptions (options : SettingOptions) : Action Settings ProgramError Unit := do
  override options.arguments .ok fun settings arguments => { settings with arguments }
  override options.reportDirectory .ok fun settings reportDirectory =>
    { settings with reportDirectory }
  match options.logLevel with
  | some word =>
    override (some word) readLevel fun settings logLevel => { settings with logLevel }
  | none =>
    if options.verbose then
      Action.modify fun settings => { settings with logLevel := .debug }
    else
      Action.pure ()

/-- Refuse settings that no calibration accepts. -/
def validate : Action Settings ProgramError Unit :=
  fun settings =>
    match Calibration.accept settings.calibration with
    | .ok _ => (.ok (), settings)
    | .error cause => (.error (.argument cause.message), settings)

/-- Apply the layers above a file, or above the standard settings. -/
def applyLayers (lookup : String → Option String) (options : SettingOptions) :
    Action Settings ProgramError Unit := do
  applyVariables lookup
  applyOptions options
  validate

/-- The settings that an action leaves when it succeeds. -/
def after (action : Action Settings ProgramError Unit) (settings : Settings) :
    Except ProgramError Settings :=
  match action settings with
  | (.ok _, changed) => .ok changed
  | (.error cause, _) => .error cause

end Settings

end LoopbackCalibration
