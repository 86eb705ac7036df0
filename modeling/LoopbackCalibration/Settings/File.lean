import LoopbackCalibration.Calibration.Setting
import LoopbackCalibration.Settings.Basic
import LoopbackCalibration.Toml.Document

/-! # The settings file

The table of a settings file gives settings by name; a name that means nothing is
passed over and a setting that is not given keeps its standard value. The calibration
may be a table, or an array with values for the first settings in order. A whole number
may stand for a real one but not the other way round.
-/

namespace LoopbackCalibration

open Toml

/-- The value as a number; an integer is one too. -/
def Toml.Value.real? : Value → Option Float
  | .real value => some value
  | .integer value => some (Binary64.ofDecimal (value < 0) value.natAbs 0)
  | _ => none

/-- The value as a count below a limit. -/
def Toml.Value.count? (limit : Nat) : Value → Option Nat
  | .integer value => if 0 ≤ value ∧ value < limit then some value.toNat else none
  | _ => none

/-- The value as a text. -/
def Toml.Value.text? : Value → Option String
  | .text characters => some characters
  | _ => none

/-- The first two numbers of an array. -/
def Toml.Value.pair? : Value → Option (PerChannel Float)
  | .array (first :: second :: _) => do return ⟨← first.real?, ← second.real?⟩
  | _ => none

namespace Config

/-- The configuration with a setting read from a value of the right type. -/
def withValue (config : Config Float) (setting : Setting Float) (value : Value) :
    Option (Config Float) :=
  match setting with
  | .real _ set => value.real?.map (set config)
  | .pair _ set => value.pair?.map (set config)
  | .count limit _ set => (value.count? limit).map (set config)
  | .text _ set => value.text?.map (set config)

/-- The settings with those changed that a table names. -/
def withEntries (entries : List (String × Value)) :
    List (String × Setting Float) → Config Float → Option (Config Float)
  | [], config => some config
  | (name, setting) :: rest, config =>
    match entries.lookup name with
    | none => withEntries entries rest config
    | some value => do
      let config ← config.withValue setting value
      withEntries entries rest config

/-- The settings with the first ones given by position. -/
def withElements :
    List Value → List (String × Setting Float) → Config Float → Option (Config Float)
  | value :: values, (_, setting) :: rest, config => do
    let config ← config.withValue setting value
    withElements values rest config
  | _, _, config => some config

/-- The settings of a calibration in a file. A date gives none of them. -/
def ofValue? : Value → Option (Config Float)
  | .table _ entries => withEntries entries settings .standard
  | .array elements => withElements elements settings .standard
  | .tables elements => withElements elements.reverse settings .standard
  | .datetime => some .standard
  | _ => none

end Config

namespace Settings

/-- A value under a name, or the standard one when the name is missing. -/
def entry? {β : Type} (table : Table) (name : String) (standard : β) (read : Value → Option β) :
    Option β :=
  match table.get? name with
  | none => some standard
  | some value => read value

/-- The settings that a table holds; what it leaves out is standard. -/
def ofTable? (table : Table) : Option Settings := do
  let arguments ← entry? table "args" standard.arguments Value.text?
  let logLevel ← entry? table "log_level" standard.logLevel fun value =>
    value.text?.bind LogLevel.ofText?
  let reportDirectory ← entry? table "report_dir" standard.reportDirectory Value.text?
  let calibration ← entry? table "calibration" standard.calibration Config.ofValue?
  return ⟨arguments, logLevel, reportDirectory, calibration⟩

/-- The settings that a file holds. -/
def ofFile? (file : String) : Option Settings :=
  (Toml.parse? file).bind ofTable?

/-- The settings that a file gives, if they can be read and drive a calibration. -/
def ofFile (file : String) : Except ProgramError Settings :=
  match ofFile? file with
  | none => .error (.settingsFile "Failed to parse TOML")
  | some settings => settings.after validate

end Settings

end LoopbackCalibration
