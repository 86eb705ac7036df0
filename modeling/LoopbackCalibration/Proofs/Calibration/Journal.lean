import LoopbackCalibration.Proofs.Calibration.Shadow

/-! # Journals

A journal stands in front of a rig and writes down every call that is made of it,
with its outcome, and every trial that it is told of. It passes everything on and
changes nothing: a run on a journal shadows the run on the rig behind it
(`Journal.shadows_rig`). `Calibration.journal` is what a journal holds in the end.
-/

namespace LoopbackCalibration

/-- What a journal writes down. -/
inductive Event (η α : Type) where
  /-- A command was given. -/
  | commanded (command : Command α) (outcome : Except DeviceError Unit)
  /-- A stream was to be opened. -/
  | opened (channels : List Channel) (outcome : Except DeviceError η)
  /-- A burst was to be started. -/
  | activated (stream : η) (count : Nat) (outcome : Except DeviceError Unit)
  /-- A stream was read. -/
  | read (stream : η) (rooms : List Nat) (wait : Duration)
      (outcome : Except StatusCode (Delivery α))
  /-- A stream was to be closed. -/
  | closed (stream : η) (outcome : Except DeviceError Unit)
  /-- The levels of a trial were offered. -/
  | tried (trial : Trial α)

/-- A device's world with what was written down so far. -/
structure Journal (σ η α : Type) where
  /-- The device and its surroundings. -/
  world : σ
  /-- The events, first to last. -/
  events : List (Event η α)

namespace Journal

variable {σ η α ε β : Type}

/-- Nothing written down yet. -/
def start (world : σ) : Journal σ η α := ⟨world, []⟩

/-- Make a call and write it down. -/
def record (event : Except ε β → Event η α) (action : Action σ ε β) :
    Action (Journal σ η α) ε β :=
  fun journal =>
    match action journal.world with
    | (result, world) => (result, ⟨world, journal.events ++ [event result]⟩)

/-- A rig behind a journal. -/
def rig (rig : Rig σ η α) : Rig (Journal σ η α) η α where
  description journal := rig.description journal.world
  command command := record (.commanded command) (rig.command command)
  openStream channels := record (.opened channels) (rig.openStream channels)
  activate stream count := record (.activated stream count) (rig.activate stream count)
  read stream rooms wait := record (.read stream rooms wait) (rig.read stream rooms wait)
  closeStream stream := record (.closed stream) (rig.closeStream stream)
  now journal :=
    match rig.now journal.world with
    | (reading, world) => (reading, { journal with world })
  stopRequested journal := rig.stopRequested journal.world
  note trial journal := ⟨rig.note trial journal.world, journal.events ++ [.tried trial]⟩
  patience stream room instant journal := rig.patience stream room instant journal.world
  patience_lt stream room instant wait journal :=
    rig.patience_lt stream room instant wait journal.world

private theorem shadows_record (event : Except ε β → Event η α) (action : Action σ ε β) :
    Action.Shadows Journal.world (record event action) action :=
  fun _ => rfl

/-- A journal passes every call on. -/
theorem shadows_rig (rig : Rig σ η α) : (Journal.rig rig).Shadows Journal.world rig where
  command _ := shadows_record _ _
  openStream _ := shadows_record _ _
  activate _ _ := shadows_record _ _
  read _ _ _ := shadows_record _ _
  closeStream _ := shadows_record _ _
  now _ := rfl
  stopRequested _ := rfl
  note _ _ := rfl

end Journal

namespace Calibration

variable {σ η α : Type} [Scalar α]

/-- A calibration on the rig behind an empty journal. -/
def journaled (rig : Rig σ η α) (config : Config α) (frequency : α) (stream : η)
    (progress : Progress σ) :
    Except (Halt CalibrationError) (Outcome α) × Progress (Journal σ η α) :=
  calibrate (Journal.rig rig) config frequency stream ⟨progress.stage, .start progress.world⟩

/-- What a calibration makes of the rig: its calls and its trials, first to last. -/
def journal (rig : Rig σ η α) (config : Config α) (frequency : α) (stream : η)
    (progress : Progress σ) : List (Event η α) :=
  (journaled rig config frequency stream progress).2.world.events

/-- **A journal changes nothing.** The calibration behind a journal comes to the result
of the calibration itself and leaves the same stage and the same device. -/
theorem calibrate_eq_journaled (rig : Rig σ η α) (config : Config α) (frequency : α)
    (stream : η) (progress : Progress σ) :
    calibrate rig config frequency stream progress =
      ((journaled rig config frequency stream progress).1,
        (journaled rig config frequency stream progress).2.map Journal.world) :=
  shadows_calibrate (Journal.shadows_rig rig) config frequency stream
    ⟨progress.stage, .start progress.world⟩

end Calibration

end LoopbackCalibration
