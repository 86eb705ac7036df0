import LoopbackCalibration.Proofs.Calibration.Journal

/-! # Ledgers

A ledger is a journal that also writes down the stage that each call belongs to. It stands
in front of the rigs of all stages, and a run behind it is the run on the rig behind it
(`Calibration.run_eq_ledgered`), as is a calibration (`Calibration.calibrate_eq_entered`). What a
step of one stage writes into a ledger is what it writes into a journal
(`Ledger.shadows_behind`).
-/

namespace LoopbackCalibration

/-- A call or a trial with the stage that it belongs to. -/
structure Entry (η α : Type) where
  stage : Stage
  event : Event η α

/-- A device's world with what was written down so far, first to last. -/
structure Ledger (σ η α : Type) where
  world : σ
  entries : List (Entry η α)

namespace Ledger

variable {σ η α ε β : Type}

/-- Nothing written down yet. -/
def start (world : σ) : Ledger σ η α := ⟨world, []⟩

/-- The ledger without the stages. -/
def journal (ledger : Ledger σ η α) : Journal σ η α :=
  ⟨ledger.world, ledger.entries.map Entry.event⟩

/-- Make a call and write it down with the stage that it belongs to. -/
def record (stage : Stage) (event : Except ε β → Event η α) (action : Action σ ε β) :
    Action (Ledger σ η α) ε β :=
  fun ledger =>
    match action ledger.world with
    | (result, world) => (result, ⟨world, ledger.entries ++ [⟨stage, event result⟩]⟩)

/-- A rig behind a ledger, for the calls of one stage. -/
def rig (rig : Rig σ η α) (stage : Stage) : Rig (Ledger σ η α) η α where
  description ledger := rig.description ledger.world
  command command := record stage (.commanded command) (rig.command command)
  openStream channels := record stage (.opened channels) (rig.openStream channels)
  activate stream count := record stage (.activated stream count) (rig.activate stream count)
  read stream rooms wait := record stage (.read stream rooms wait) (rig.read stream rooms wait)
  closeStream stream := record stage (.closed stream) (rig.closeStream stream)
  now ledger :=
    match rig.now ledger.world with
    | (reading, world) => (reading, { ledger with world })
  stopRequested ledger := rig.stopRequested ledger.world
  note trial ledger :=
    ⟨rig.note trial ledger.world, ledger.entries ++ [⟨stage, .tried trial⟩]⟩
  patience stream room instant ledger := rig.patience stream room instant ledger.world
  patience_lt stream room instant wait ledger :=
    rig.patience_lt stream room instant wait ledger.world

private theorem shadows_record (stage : Stage) (event : Except ε β → Event η α)
    (action : Action σ ε β) :
    Action.Shadows journal (record stage event action) (Journal.record event action) := by
  intro ledger
  simp only [record, Journal.record, journal, List.map_append, List.map_cons, List.map_nil]

/-- Without the stages a ledger is a journal. -/
theorem shadows_rig (rig : Rig σ η α) (stage : Stage) :
    (Ledger.rig rig stage).Shadows journal (Journal.rig rig) where
  command _ := shadows_record _ _ _
  openStream _ := shadows_record _ _ _
  activate _ _ := shadows_record _ _ _
  read _ _ _ := shadows_record _ _ _
  closeStream _ := shadows_record _ _ _
  now _ := rfl
  stopRequested _ := rfl
  note _ _ := by
    simp only [Ledger.rig, Journal.rig, journal, List.map_append, List.map_cons, List.map_nil]

/-- A ledger passes every call on. -/
theorem shadows_world (rig : Rig σ η α) (stage : Stage) :
    (Ledger.rig rig stage).Shadows Ledger.world rig where
  command _ _ := rfl
  openStream _ _ := rfl
  activate _ _ _ := rfl
  read _ _ _ _ := rfl
  closeStream _ _ := rfl
  now _ := rfl
  stopRequested _ := rfl
  note _ _ := rfl

/-- The ledger with the entries of one stage behind earlier ones. -/
def behind (earlier : List (Entry η α)) (stage : Stage) (journal : Journal σ η α) :
    Ledger σ η α :=
  ⟨journal.world, earlier ++ journal.events.map (Entry.mk stage)⟩

variable {earlier : List (Entry η α)}

private theorem shadows_record_behind (stage : Stage) (event : Except ε β → Event η α)
    (action : Action σ ε β) :
    Action.Shadows (behind earlier stage) (Journal.record event action)
      (record stage event action) := by
  intro journal
  simp only [record, Journal.record, behind, List.map_append, List.map_cons, List.map_nil,
    List.append_assoc]

/-- With the stage and what came earlier a journal is a ledger. -/
theorem shadows_behind (rig : Rig σ η α) (stage : Stage) :
    (Journal.rig rig).Shadows (behind earlier stage) (Ledger.rig rig stage) where
  command _ := shadows_record_behind _ _ _
  openStream _ := shadows_record_behind _ _ _
  activate _ _ := shadows_record_behind _ _ _
  read _ _ _ := shadows_record_behind _ _ _
  closeStream _ := shadows_record_behind _ _ _
  now _ := rfl
  stopRequested _ := rfl
  note _ _ := by
    simp only [Ledger.rig, Journal.rig, behind, List.map_append, List.map_cons, List.map_nil,
      List.append_assoc]

end Ledger

namespace Calibration

variable {σ η α : Type} [Scalar α]

/-- A run on a rig behind a ledger, from an empty one on. -/
def ledgered (rig : Rig σ η α) (config : Config α) (frequency : α) (progress : Progress σ) :
    Except (Halt CalibrationError) (Outcome α) × Progress (Ledger σ η α) :=
  runInStages (Ledger.rig rig) config frequency ⟨progress.stage, .start progress.world⟩

/-- What a run makes of the rig: its calls and its trials, first to last, each with the stage
that it belongs to. -/
def ledger (rig : Rig σ η α) (config : Config α) (frequency : α) (progress : Progress σ) :
    List (Entry η α) :=
  (ledgered rig config frequency progress).2.world.entries

/-- The run behind a journal comes to the result of the run behind a ledger, and the journal
holds the events of the ledger. -/
theorem run_journal_eq_ledgered (rig : Rig σ η α) (config : Config α) (frequency : α)
    (progress : Progress σ) :
    run (Journal.rig rig) config frequency ⟨progress.stage, .start progress.world⟩ =
      ((ledgered rig config frequency progress).1,
        (ledgered rig config frequency progress).2.map Ledger.journal) :=
  shadows_runInStages (Ledger.shadows_rig rig) config frequency
    ⟨progress.stage, .start progress.world⟩

/-- **A ledger changes nothing.** The run behind a ledger comes to the result of the run
itself and leaves the same stage and the same device. -/
theorem run_eq_ledgered (rig : Rig σ η α) (config : Config α) (frequency : α)
    (progress : Progress σ) :
    run rig config frequency progress =
      ((ledgered rig config frequency progress).1,
        (ledgered rig config frequency progress).2.map Ledger.world) := by
  have journaled := shadows_runInStages (fun _ => Journal.shadows_rig rig) config frequency
    ⟨progress.stage, .start progress.world⟩
  rw [← run_eq_inStages, ← run_eq_inStages, run_journal_eq_ledgered] at journaled
  exact journaled

/-- A calibration on the rig behind an empty ledger. -/
def entered (rig : Rig σ η α) (config : Config α) (frequency : α) (stream : η)
    (progress : Progress σ) :
    Except (Halt CalibrationError) (Outcome α) × Progress (Ledger σ η α) :=
  calibrateInStages (Ledger.rig rig) config frequency stream
    ⟨progress.stage, .start progress.world⟩

/-- What a calibration makes of the rig: its calls and its trials, first to last, each with the
stage that it belongs to. -/
def entries (rig : Rig σ η α) (config : Config α) (frequency : α) (stream : η)
    (progress : Progress σ) : List (Entry η α) :=
  (entered rig config frequency stream progress).2.world.entries

/-- The calibration behind a ledger comes to the result of the calibration itself and leaves the
same stage and the same device. -/
theorem calibrate_eq_entered (rig : Rig σ η α) (config : Config α) (frequency : α) (stream : η)
    (progress : Progress σ) :
    calibrate rig config frequency stream progress =
      ((entered rig config frequency stream progress).1,
        (entered rig config frequency stream progress).2.map Ledger.world) :=
  shadows_calibrateInStages (Ledger.shadows_world rig) config frequency stream
    ⟨progress.stage, .start progress.world⟩

end Calibration

end LoopbackCalibration
