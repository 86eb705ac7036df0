import Mathlib.Logic.Basic
import LoopbackCalibration.Program.Run

/-! # Layers of settings

The settings of the program are those of a file, or the standard ones, with what the environment
and the command line give in their place. Both layers are read in full, also where a later one
covers an earlier one, and the settings that come out of them are told field by field
(`Settings.layered_resolves`).
-/

namespace LoopbackCalibration

open Action

/-- A word spells a log level, in letters of either case. -/
def LogLevel.Spells (word : String) (level : LogLevel) : Prop :=
  String.ofList (word.toList.map Char.toLower) = level.name

theorem LogLevel.ofText?_eq_some_iff {word : String} {level : LogLevel} :
    ofText? word = some level ↔ Spells word level := by
  constructor
  · intro found
    have same := List.find?_some (p := fun level : LogLevel =>
      level.name == String.ofList (word.toList.map Char.toLower)) found
    exact (eq_of_beq same).symm
  · intro spelled
    unfold ofText?
    rw [spelled]
    cases level <;> decide +kernel

/-- A text is a count below a limit: digits, with or without a plus sign in front. -/
def Decimal.Counts (limit : Nat) (text : List Char) (count : Nat) : Prop :=
  ∃ digits : List Char, (text = digits ∨ text = '+' :: digits) ∧ digits ≠ [] ∧
    (∀ digit ∈ digits, digit.isDigit) ∧ ofDigits digits = count ∧ count < limit

theorem Decimal.readCount?_eq_some_iff {limit count : Nat} {text : List Char} :
    readCount? limit text = some count ↔ Counts limit text count := by
  have reads : ∀ digits : List Char,
      (if digits.isEmpty || !digits.all Char.isDigit then none
        else if ofDigits digits < limit then some (ofDigits digits) else none) = some count ↔
      digits ≠ [] ∧ (∀ digit ∈ digits, digit.isDigit) ∧ ofDigits digits = count ∧
        count < limit := by
    intro digits
    grind
  constructor
  · intro found
    unfold readCount? at found
    split at found
    · exact ⟨_, .inr rfl, (reads _).mp found⟩
    · exact ⟨_, .inl rfl, (reads _).mp found⟩
  · rintro ⟨digits, rfl | rfl, counts⟩
    · unfold readCount?
      split
      · exact absurd (counts.2.1 '+' List.mem_cons_self) (by decide)
      · exact (reads _).mpr counts
    · exact (reads _).mpr counts

namespace Settings

variable {β : Type} {given : Option String} {read : String → Except ProgramError β}
  {update : Settings → β → Settings} {before after : Settings}
  {lookup : String → Option String} {options : SettingOptions}

/-- What is given of a value can be read. -/
def Legible (given : Option String) (read : String → Except ProgramError β) : Prop :=
  ∀ text ∈ given, ∃ value, read text = .ok value

/-- The settings with a value in place of their own, if it is given and can be read. -/
def overridden (given : Option String) (read : String → Except ProgramError β)
    (update : Settings → β → Settings) (settings : Settings) : Settings :=
  match given.bind fun text => (read text).toOption with
  | none => settings
  | some value => update settings value

theorem override_eq_ok_iff :
    override given read update before = (.ok (), after) ↔
      Legible given read ∧ after = overridden given read update before := by
  cases given with
  | none => simp [override, Legible, overridden, eq_comm]
  | some text =>
      cases result : read text with
      | error cause => simp [override, Legible, result]
      | ok value => simp [override, Legible, overridden, result, Except.toOption, eq_comm]

theorem override_bind_eq_ok_iff {next : Unit → Action Settings ProgramError Unit} :
    (override given read update >>= next) before = (.ok (), after) ↔
      Legible given read ∧ next () (overridden given read update before) = (.ok (), after) := by
  rw [bind_eq_ok_iff]
  constructor
  · rintro ⟨⟨⟩, between, begins, ends⟩
    obtain ⟨legible, rfl⟩ := override_eq_ok_iff.mp begins
    exact ⟨legible, ends⟩
  · rintro ⟨legible, ends⟩
    exact ⟨(), _, override_eq_ok_iff.mpr ⟨legible, rfl⟩, ends⟩

@[simp] theorem legible_ok : Legible given .ok :=
  fun text _ => ⟨text, rfl⟩

theorem legible_readLevel_iff :
    Legible given readLevel ↔ ∀ word ∈ given, ∃ level, LogLevel.Spells word level := by
  simp only [Legible, ← LogLevel.ofText?_eq_some_iff]
  refine forall₂_congr fun word _ => exists_congr fun level => ?_
  unfold readLevel
  cases LogLevel.ofText? word <;> simp

/-- The count that a text of a variable gives, blanks around it left aside. -/
def samples? (text : String) : Option Nat :=
  Decimal.readCount? Decimal.limit64 (Text.trim text.toList)

theorem legible_readSamples_iff :
    Legible given readSamples ↔
      ∀ text ∈ given, ∃ count, Decimal.Counts Decimal.limit64 (Text.trim text.toList) count := by
  simp only [Legible, ← Decimal.readCount?_eq_some_iff]
  refine forall₂_congr fun text _ => exists_congr fun count => ?_
  unfold readSamples
  cases Decimal.readCount? Decimal.limit64 (Text.trim text.toList) <;> simp

theorem toOption_readLevel (word : String) : (readLevel word).toOption = LogLevel.ofText? word := by
  unfold readLevel
  cases LogLevel.ofText? word <;> rfl

theorem toOption_readSamples (text : String) : (readSamples text).toOption = samples? text := by
  unfold readSamples samples?
  cases Decimal.readCount? Decimal.limit64 (Text.trim text.toList) <;> rfl

/-- The settings with what variables give in place of their own. -/
def withVariables (lookup : String → Option String) (settings : Settings) : Settings where
  arguments := (lookup "LOOPCAL_ARGS").getD settings.arguments
  logLevel := ((lookup "LOOPCAL_LOG_LEVEL").bind LogLevel.ofText?).getD settings.logLevel
  reportDirectory := (lookup "LOOPCAL_REPORT_DIR").getD settings.reportDirectory
  calibration :=
    { settings.calibration with
      samplesPerCapture :=
        ((lookup samplesVariable).bind samples?).getD settings.calibration.samplesPerCapture }

theorem applyVariables_eq_ok_iff :
    applyVariables lookup before = (.ok (), after) ↔
      (Legible (lookup "LOOPCAL_LOG_LEVEL") readLevel ∧
        Legible (lookup samplesVariable) readSamples) ∧ after = withVariables lookup before := by
  unfold applyVariables
  simp only [override_bind_eq_ok_iff, override_eq_ok_iff, legible_ok, true_and, and_assoc]
  refine and_congr_right fun _ => and_congr_right fun _ => ?_
  simp only [overridden, withVariables, toOption_readLevel, toOption_readSamples]
  cases lookup "LOOPCAL_ARGS" <;> cases (lookup "LOOPCAL_LOG_LEVEL").bind LogLevel.ofText? <;>
    cases lookup "LOOPCAL_REPORT_DIR" <;> cases (lookup samplesVariable).bind samples? <;> rfl

/-- The settings with what the command line gives in place of their own. -/
def withOptions (options : SettingOptions) (settings : Settings) : Settings :=
  { settings with
    arguments := options.arguments.getD settings.arguments
    logLevel := (options.logLevel.bind LogLevel.ofText?).getD
      (if options.verbose then .debug else settings.logLevel)
    reportDirectory := options.reportDirectory.getD settings.reportDirectory }

theorem applyOptions_eq_ok_iff :
    applyOptions options before = (.ok (), after) ↔
      Legible options.logLevel readLevel ∧ after = withOptions options before := by
  obtain ⟨file, arguments, logLevel, verbose, reportDirectory⟩ := options
  unfold applyOptions
  simp only [override_bind_eq_ok_iff, legible_ok, true_and]
  cases logLevel with
  | some word =>
      simp only [override_eq_ok_iff]
      refine and_congr_right fun legible => ?_
      obtain ⟨level, read⟩ := legible word rfl
      have named : LogLevel.ofText? word = some level := by
        rw [← toOption_readLevel, read]
        rfl
      simp only [overridden, withOptions, read, named, Option.bind_some, Except.toOption]
      cases arguments <;> cases reportDirectory <;> rfl
  | none =>
      constructor
      · intro ends
        refine ⟨fun word missing => (Option.not_mem_none word missing).elim, ?_⟩
        cases arguments <;> cases reportDirectory <;> cases verbose <;> cases ends <;> rfl
      · rintro ⟨-, rfl⟩
        cases arguments <;> cases reportDirectory <;> cases verbose <;> rfl

theorem validate_eq_ok_iff :
    validate before = (.ok (), after) ↔ before.calibration.isValid ∧ after = before := by
  unfold validate Calibration.accept Config.isValid
  cases before.calibration.fault? <;> simp [eq_comm]

theorem after_eq_ok_iff {action : Action Settings ProgramError Unit} :
    before.after action = .ok after ↔ action before = (.ok (), after) := by
  unfold Settings.after
  rcases action before with ⟨_ | _, _⟩ <;> simp

/-- The settings from all layers. Those of a file have to drive a calibration by themselves. -/
def layered (file : Option Settings) (lookup : String → Option String)
    (options : SettingOptions) : Except ProgramError Settings :=
  match file with
  | none => standard.after (applyLayers lookup options)
  | some settings => do
    let checked ← settings.after validate
    checked.after (applyLayers lookup options)

/-- The settings that layers stand for: what the command line says goes first, then what the
environment says, then what was there. -/
def resolved (start : Settings) (lookup : String → Option String) (options : SettingOptions) :
    Settings where
  arguments := (options.arguments.or (lookup "LOOPCAL_ARGS")).getD start.arguments
  logLevel :=
    match options.logLevel.bind LogLevel.ofText? with
    | some level => level
    | none =>
      if options.verbose then .debug
      else ((lookup "LOOPCAL_LOG_LEVEL").bind LogLevel.ofText?).getD start.logLevel
  reportDirectory :=
    (options.reportDirectory.or (lookup "LOOPCAL_REPORT_DIR")).getD start.reportDirectory
  calibration :=
    { start.calibration with
      samplesPerCapture :=
        ((lookup samplesVariable).bind samples?).getD start.calibration.samplesPerCapture }

theorem withOptions_withVariables (start : Settings) :
    withOptions options (withVariables lookup start) = resolved start lookup options := by
  simp only [withOptions, withVariables, resolved]
  cases options.arguments <;> cases options.logLevel.bind LogLevel.ofText? <;>
    cases options.reportDirectory <;> rfl

theorem applyLayers_eq_ok_iff :
    applyLayers lookup options before = (.ok (), after) ↔
      (Legible (lookup "LOOPCAL_LOG_LEVEL") readLevel ∧
        Legible (lookup samplesVariable) readSamples) ∧ Legible options.logLevel readLevel ∧
          (resolved before lookup options).calibration.isValid ∧
            after = resolved before lookup options := by
  unfold applyLayers
  rw [bind_eq_ok_iff]
  constructor
  · rintro ⟨⟨⟩, between, looked, ends⟩
    obtain ⟨legible, rfl⟩ := applyVariables_eq_ok_iff.mp looked
    obtain ⟨⟨⟩, merged, given, valid⟩ := bind_eq_ok_iff.mp ends
    obtain ⟨level, rfl⟩ := applyOptions_eq_ok_iff.mp given
    rw [withOptions_withVariables, validate_eq_ok_iff] at valid
    exact ⟨legible, level, valid⟩
  · rintro ⟨legible, level, valid⟩
    refine ⟨(), _, applyVariables_eq_ok_iff.mpr ⟨legible, rfl⟩, bind_eq_ok_iff.mpr
      ⟨(), _, applyOptions_eq_ok_iff.mpr ⟨level, rfl⟩, ?_⟩⟩
    rw [withOptions_withVariables, validate_eq_ok_iff]
    exact valid

theorem layered_eq_ok_iff {file : Option Settings} :
    layered file lookup options = .ok after ↔
      (∀ settings ∈ file, settings.calibration.isValid) ∧
        applyLayers lookup options (file.getD standard) = (.ok (), after) := by
  cases file with
  | none => simp [layered, after_eq_ok_iff]
  | some settings =>
      constructor
      · intro succeeds
        match checks : settings.after validate with
        | .error cause =>
          simp only [layered, checks] at succeeds
          cases succeeds
        | .ok checked =>
          simp only [layered, checks] at succeeds
          obtain ⟨valid, rfl⟩ := validate_eq_ok_iff.mp (after_eq_ok_iff.mp checks)
          exact ⟨fun _ member => Option.some.inj member ▸ valid, after_eq_ok_iff.mp succeeds⟩
      · rintro ⟨valid, succeeds⟩
        have checks : settings.after validate = .ok settings :=
          after_eq_ok_iff.mpr (validate_eq_ok_iff.mpr ⟨valid settings rfl, rfl⟩)
        simp only [layered, checks]
        exact after_eq_ok_iff.mpr succeeds

end Settings

/-- The settings that the options have read from a tree: those of the file that they name. -/
def SettingOptions.Reads (options : SettingOptions) (tree : FileTree) (file : Option Settings) :
    Prop :=
  match options.file with
  | none => file = none
  | some path => ∃ contents settings, tree.readFile path = .ok contents ∧
      Settings.ofFile? contents = some settings ∧ file = some settings

/-- The variables that the layers look at are those that the program looks up. -/
theorem Settings.applyLayers_lookup (options : SettingOptions) (lookup : String → Option String) :
    applyLayers (fun name =>
        ((Program.variableNames.map fun name => (name, lookup name)).lookup name).join) options =
      applyLayers lookup options := by
  rfl

namespace Program

private theorem run_bind {σ ε β γ : Type} (first : ExceptT ε (StateM σ) β)
    (next : β → ExceptT ε (StateM σ) γ) (state : σ) :
    (first >>= next).run state =
      match first.run state with
      | (.ok value, after) => (next value).run after
      | (.error cause, after) => (.error cause, after) := by
  have opened : (first >>= next).run state =
      ExceptT.bindCont next (first.run state).1 (first.run state).2 := rfl
  rw [opened]
  rcases first.run state with ⟨_ | _, _⟩ <;> rfl

private theorem buildSettings_of_read {options : SettingOptions} {tree : FileTree}
    {environment : List (String × String)} {start : Except (Halt ProgramError) Settings}
    (read : (readSettings (ofTree environment) options.file).run tree = (start, tree)) :
    (buildSettings (ofTree environment) options).run tree =
      (start.bind fun settings => (settings.after (Settings.applyLayers
        (fun name => environment.lookup name) options)).mapError Halt.error, tree) := by
  unfold buildSettings
  rw [run_bind, read]
  cases start with
  | error cause => rfl
  | ok settings =>
      have looked : (ExceptT.lift (variableNames.mapM fun name => do
          return (name, ← (ofTree environment).lookUp name)) :
            ExceptT (Halt ProgramError) (StateM FileTree) _).run tree =
          (.ok (variableNames.map fun name => (name, environment.lookup name)), tree) := rfl
      simp only
      rw [run_bind, looked]
      simp only [Settings.applyLayers_lookup, Except.bind]
      cases settings.after (Settings.applyLayers _ options) <;> rfl

theorem buildSettings_eq_layered {options : SettingOptions} {tree : FileTree}
    {file : Option Settings} (reads : options.Reads tree file)
    (environment : List (String × String)) :
    (buildSettings (Program.ofTree environment) options).run tree =
      ((Settings.layered file (fun name => environment.lookup name) options).mapError Halt.error,
        tree) := by
  unfold SettingOptions.Reads at reads
  cases named : options.file with
  | none =>
      rw [named] at reads
      subst reads
      have read : (readSettings (ofTree environment) options.file).run tree =
          (.ok Settings.standard, tree) := by
        rw [named]
        rfl
      exact buildSettings_of_read read
  | some path =>
      rw [named] at reads
      obtain ⟨contents, settings, read, given, rfl⟩ := reads
      have found : (readSettings (ofTree environment) options.file).run tree =
          ((settings.after Settings.validate).mapError Halt.error, tree) := by
        have readFile : (orStop (fun fault => .settingsFile
            s!"Failed to read {path}: {fault.message}") ((ofTree environment).readFile path)).run
              tree = (.ok contents, tree) := by
          unfold orStop
          have answer : (ExceptT.lift ((ofTree environment).readFile path) :
              ExceptT (Halt ProgramError) (StateM FileTree) _).run tree =
                (.ok (tree.readFile path), tree) := rfl
          rw [run_bind, answer, read]
          rfl
        rw [named]
        unfold readSettings
        rw [run_bind, readFile]
        simp only [Settings.ofFile, given]
        cases settings.after Settings.validate <;> rfl
      rw [buildSettings_of_read found]
      simp only [Settings.layered]
      cases settings.after Settings.validate <;> rfl

end Program

namespace Settings

/-- Done again at once after it succeeded, an action succeeds and changes nothing. -/
def Repeatable (action : Action Settings ProgramError Unit) : Prop :=
  ∀ before after, action before = (.ok (), after) → action after = (.ok (), after)

theorem repeatable_applyVariables (lookup : String → Option String) :
    Repeatable (applyVariables lookup) := by
  intro before after applied
  obtain ⟨legible, rfl⟩ := applyVariables_eq_ok_iff.mp applied
  refine applyVariables_eq_ok_iff.mpr ⟨legible, ?_⟩
  simp only [withVariables]
  cases lookup "LOOPCAL_ARGS" <;> cases (lookup "LOOPCAL_LOG_LEVEL").bind LogLevel.ofText? <;>
    cases lookup "LOOPCAL_REPORT_DIR" <;> cases (lookup samplesVariable).bind samples? <;> rfl

theorem repeatable_applyOptions (options : SettingOptions) :
    Repeatable (applyOptions options) := by
  intro before after applied
  obtain ⟨legible, rfl⟩ := applyOptions_eq_ok_iff.mp applied
  refine applyOptions_eq_ok_iff.mpr ⟨legible, ?_⟩
  simp only [withOptions]
  cases options.arguments <;> cases options.logLevel.bind LogLevel.ofText? <;>
    cases options.verbose <;> cases options.reportDirectory <;> rfl

/-- **Layers resolve by priority.** Building the settings succeeds exactly when the file is valid,
every level and count that is given can be read, and what comes out is valid. Then every setting
is that of the highest layer that gives it. Either layer may be repeated, and the program builds
its settings in this way. -/
theorem layered_resolves (file : Option Settings) (lookup : String → Option String)
    (options : SettingOptions) :
    (∀ settings, layered file lookup options = .ok settings ↔
      (∀ given ∈ file, given.calibration.isValid) ∧
      (∀ word ∈ lookup "LOOPCAL_LOG_LEVEL", ∃ level, LogLevel.Spells word level) ∧
      (∀ word ∈ options.logLevel, ∃ level, LogLevel.Spells word level) ∧
      (∀ text ∈ lookup samplesVariable, ∃ count,
        Decimal.Counts Decimal.limit64 (Text.trim text.toList) count) ∧
      (resolved (file.getD standard) lookup options).calibration.isValid ∧
      settings = resolved (file.getD standard) lookup options) ∧
    Repeatable (applyVariables lookup) ∧ Repeatable (applyOptions options) ∧
    ∀ (environment : List (String × String)) (tree : FileTree),
      (fun name => environment.lookup name) = lookup → options.Reads tree file →
        (Program.buildSettings (Program.ofTree environment) options).run tree =
          ((layered file lookup options).mapError Halt.error, tree) := by
  refine ⟨fun settings => ?_, repeatable_applyVariables lookup, repeatable_applyOptions options,
    ?_⟩
  · rw [layered_eq_ok_iff, applyLayers_eq_ok_iff, legible_readLevel_iff, legible_readLevel_iff,
      legible_readSamples_iff]
    exact ⟨fun ⟨valid, ⟨level, count⟩, given, rest⟩ => ⟨valid, level, given, count, rest⟩,
      fun ⟨valid, level, given, count, rest⟩ => ⟨valid, ⟨level, count⟩, given, rest⟩⟩
  · rintro environment tree rfl reads
    exact Program.buildSettings_eq_layered reads environment

/-- A count from the environment and, before its level, the wish of the command line to be told
more. -/
theorem layered_resolves_verbose :
    let environment := [("LOOPCAL_LOG_LEVEL", "WARN"), (samplesVariable, " +4096 ")]
    let options : SettingOptions := { arguments := some "driver=sim", verbose := true }
    (Program.buildSettings (Program.ofTree environment) options).run FileTree.empty =
      (.ok { standard with
        arguments := "driver=sim"
        logLevel := .debug
        calibration := { standard.calibration with samplesPerCapture := 4096 } },
        FileTree.empty) := by
  intro environment options
  obtain ⟨succeeds, -, -, builds⟩ :=
    layered_resolves none (fun name => environment.lookup name) options
  have samples : samples? " +4096 " = some 4096 := by decide +kernel
  have merged : resolved standard (fun name => environment.lookup name) options =
      { standard with
        arguments := "driver=sim"
        logLevel := .debug
        calibration := { standard.calibration with samplesPerCapture := 4096 } } := by
    have count : environment.lookup samplesVariable = some " +4096 " := rfl
    have arguments : environment.lookup "LOOPCAL_ARGS" = none := rfl
    have directory : environment.lookup "LOOPCAL_REPORT_DIR" = none := rfl
    simp only [resolved, count, arguments, directory, Option.bind_some, samples]
    rfl
  have valid : (resolved standard (fun name => environment.lookup name)
      options).calibration.isValid := by
    rw [merged]
    decide +kernel
  have built := (succeeds _).mpr ⟨by simp, ?_, by simp [options], ?_, valid, rfl⟩
  · rw [builds environment FileTree.empty rfl rfl, built, Option.getD_none, merged]
    rfl
  · rintro word ⟨⟩
    exact ⟨.warn, LogLevel.ofText?_eq_some_iff.mp (by decide +kernel)⟩
  · rintro text ⟨⟩
    exact ⟨4096, Decimal.readCount?_eq_some_iff.mp samples⟩

end Settings

end LoopbackCalibration
