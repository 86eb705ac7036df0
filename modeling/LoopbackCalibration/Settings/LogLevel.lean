/-! # Log levels

How much the program tells about its work. A level is read in any case of its letters.
-/

namespace LoopbackCalibration

/-- A log level, most talkative first. -/
inductive LogLevel where
  | trace
  | debug
  | info
  | warn
  | error
  deriving Repr, DecidableEq, Inhabited

namespace LogLevel

/-- Every log level, from the most to the least talkative. -/
def all : List LogLevel := [.trace, .debug, .info, .warn, .error]

/-- The name of a log level. -/
def name : LogLevel → String
  | .trace => "trace"
  | .debug => "debug"
  | .info => "info"
  | .warn => "warn"
  | .error => "error"

/-- The log level that a word names, in capitals or not. -/
def ofText? (word : String) : Option LogLevel :=
  all.find? fun level => level.name == String.ofList (word.toList.map Char.toLower)

theorem ofText?_name (level : LogLevel) : ofText? level.name = some level := by
  cases level <;> decide +kernel

end LogLevel

end LoopbackCalibration
