import LoopbackCalibration.Calibration.Error

/-! # Errors of the program

Everything that can stop the program short of a broken command line. An error that
wraps another one tells about it twice: in its own words and as its cause.
-/

namespace LoopbackCalibration

/-- What the operating system refuses. -/
inductive FileFault where
  | notFound
  | alreadyExists
  /-- A file stands where a directory is needed. -/
  | notDirectory
  /-- A directory stands where a file is needed. -/
  | isDirectory
  | nameTooLong
  /-- The path holds the character that ends one. -/
  | endsEarly
  | other (words : String)
  deriving Repr, DecidableEq

/-- What the system says of the fault. -/
def FileFault.message : FileFault → String
  | .notFound => "No such file or directory (os error 2)"
  | .alreadyExists => "File exists (os error 17)"
  | .notDirectory => "Not a directory (os error 20)"
  | .isDirectory => "Is a directory (os error 21)"
  | .nameTooLong => "File name too long (os error 36)"
  | .endsEarly => "file name contained an unexpected NUL byte"
  | .other words => words

/-- Why a device call failed, cause by cause. -/
def DeviceError.causes (error : DeviceError) : List String := [error.message]

/-- The error and what caused it, the cause behind its effect. -/
def AcquisitionError.causes (error : AcquisitionError) : List String :=
  error.message :: match error with
    | .device source => source.causes
    | _ => []

/-- The error and what caused it, the cause behind its effect. -/
def CalibrationError.causes (error : CalibrationError) : List String :=
  error.message :: match error with
    | .invalidConfig _ => []
    | .configuration _ source => source.causes
    | .acquisition _ source => source.causes

/-- Why the program stopped. -/
inductive ProgramError where
  | logLevel (word : String)
  | argument (reason : String)
  | settingsFile (reason : String)
  | environment (reason : String)
  | device (source : DeviceError)
  | calibration (source : CalibrationError)
  | report (reason : String)
  | storage (source : FileFault)
  | table (source : FileFault)
  deriving Repr, DecidableEq

namespace ProgramError

/-- What the error is reported as. -/
def message : ProgramError → String
  | .logLevel word =>
    s!"Invalid log level: {word}. Must be one of: trace, debug, info, warn, error"
  | .argument reason => s!"Invalid argument: {reason}"
  | .settingsFile reason => s!"Configuration file error: {reason}"
  | .environment reason => s!"Environment variable error: {reason}"
  | .device source => s!"Device error: {source.message}"
  | .calibration source => s!"Calibration failed: {source.message}"
  | .report reason => s!"Report error: {reason}"
  | .storage source => s!"IO error: {source.message}"
  | .table source => s!"CSV error: {source.message}"

/-- Why the program stopped, cause by cause. -/
def causes (error : ProgramError) : List String :=
  error.message :: match error with
    | .device source => source.causes
    | .calibration source => source.causes
    | .storage source => [source.message]
    | .table source => [source.message, source.message]
    | _ => []

/-- The words of the error that this one wraps. -/
def source? (error : ProgramError) : Option String := error.causes[1]?

/-- The name of the kind of error, with the kind of error it wraps. -/
def kind : ProgramError → String
  | .logLevel _ => "InvalidLogLevel"
  | .argument _ => "InvalidArgument"
  | .settingsFile _ => "FileError"
  | .environment _ => "EnvError"
  | .device source => "Device." ++ source.kind
  | .calibration source => "Calibration." ++ source.kind
  | .report _ => "Report"
  | .storage _ => "Io"
  | .table _ => "Csv"

/-- The settings are at fault, not the calibration or its report. -/
def isSettings : ProgramError → Bool
  | .logLevel _ | .argument _ | .settingsFile _ | .environment _ => true
  | _ => false

end ProgramError

end LoopbackCalibration
