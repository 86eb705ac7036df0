import LoopbackCalibration.Calibration.Commands
import LoopbackCalibration.Calibration.Error
import LoopbackCalibration.Calibration.Outcome
import LoopbackCalibration.Device.Session
import LoopbackCalibration.Search.Descent
import LoopbackCalibration.Tone

/-! # Calibration runs

A run sets up the front end, opens a capture stream, tunes, adjusts the receive
gain, searches for the receive correction and then for both transmit corrections
at once, and closes the stream. The stage it is in goes along with the device's
world, and an error carries the stage it occurred in. The setup counts as the
first stage but does not enter it, so a run that fails there leaves the stage of
the run before.
-/

namespace LoopbackCalibration

/-- A device's world together with the stage that the last run reached. -/
structure Progress (σ : Type) where
  stage : Stage
  world : σ

namespace Progress

variable {σ η α : Type}

/-- A world in which no run has reached a stage yet. -/
def start (world : σ) : Progress σ := ⟨.initial, world⟩

/-- An action on the world, which leaves the stage alone. -/
@[inline] def onWorld {ε β : Type} (action : Action σ ε β) : Action (Progress σ) ε β :=
  Action.onPart Progress.world (fun world progress => { progress with world }) action

/-- The rig of a world beside a stage. -/
def rig (rig : Rig σ η α) : Rig (Progress σ) η α where
  description progress := rig.description progress.world
  command command := onWorld (rig.command command)
  openStream channels := onWorld (rig.openStream channels)
  activate stream count := onWorld (rig.activate stream count)
  read stream rooms wait := onWorld (rig.read stream rooms wait)
  closeStream stream := onWorld (rig.closeStream stream)
  now progress :=
    match rig.now progress.world with
    | (reading, world) => (reading, { progress with world })
  stopRequested progress := rig.stopRequested progress.world
  note trial progress := { progress with world := rig.note trial progress.world }
  patience stream room instant progress := rig.patience stream room instant progress.world
  patience_lt stream room instant wait progress :=
    rig.patience_lt stream room instant wait progress.world

end Progress

namespace Calibration

/-- A part of a run: it may change the stage, and an overflow may stop it. -/
abbrev Step (σ β : Type) : Type := Action (Progress σ) (Halt CalibrationError) β

variable {σ η α β : Type}

/-- Carry out commands as part of a given stage. -/
def issueDuring (rig : Rig σ η α) (stage : Stage) (commands : List (Command α)) : Step σ Unit :=
  Action.forEach (fun command =>
    Action.mapError (fun cause => .error (.configuration stage cause))
      ((Progress.rig rig).command command)) commands

/-- Carry out commands as part of the stage that the run is in. -/
def issue (rig : Rig σ η α) (commands : List (Command α)) : Step σ Unit :=
  fun progress => issueDuring rig progress.stage commands progress

/-- Begin a given stage. -/
def enter (stage : Stage) : Step σ Unit :=
  Action.modify fun progress => { progress with stage }

/-- Begin the next stage; the last stage stays. -/
def advance : Step σ Unit :=
  Action.modify fun progress =>
    { progress with stage := progress.stage.next?.getD progress.stage }

/-- Look at the clock. -/
def clock (rig : Rig σ η α) : Step σ Nat :=
  fun progress =>
    match (Progress.rig rig).now progress with
    | (reading, progress) => (.ok reading, progress)

/-- Tell of a trial. -/
def note (rig : Rig σ η α) (trial : Trial α) : Step σ Unit :=
  Action.modify ((Progress.rig rig).note trial)

section Capturing

variable [Arithmetic α]

/-- Take a capture, whose error is reported with the stage that the run is in. -/
def capture (rig : Rig σ η α) (config : Config α) (stream : η) : Step σ (SampleBlock α) :=
  fun progress =>
    Action.mapError (Halt.map (.acquisition progress.stage))
      (Acquisition.acquire (Progress.rig rig) stream config.samplesPerCapture
        config.acquisitionOptions) progress

end Capturing

variable [Scalar α]

/-- Set the receive gain so that the tone of each channel comes near the target. -/
def adjustGain (rig : Rig σ η α) (config : Config α) (stream : η) : Step σ (PerChannel α) := do
  issue rig (Config.receiveGain (.both config.rxPgaGain))
  let block ← capture rig config stream
  let levels := Tone.blockLevels block (.both config.txDelta) config.sampleRate
  let gains := levels.map config.adjustedGain
  issue rig (Config.receiveGain gains)
  return gains

/-- Try a point of the receive search: apply it, take a capture and offer the levels of the
images. -/
def tryReceive (rig : Rig σ η α) (config : Config α) (stream : η) (start : SearchState α)
    (point : TestPoint α) (found : SearchState α) : Step σ (SearchState α) := do
  let trial := start.corrections.map (composeIq point.iq)
  issue rig (writeCorrections .iqBalance .rx trial)
  let block ← capture rig config stream
  let levels := Tone.blockLevels block (.both config.rxImage) config.sampleRate
  note rig (.receive trial levels)
  return found.offerBoth trial levels

/-- Search for the receive corrections with the least image. -/
def searchReceive (rig : Rig σ η α) (config : Config α) (stream : η) : Step σ (SearchState α) :=
  Descent.tryGrids (tryReceive rig config stream) config.grids (.initial .iqBalance)

/-- What the transmit search has found. -/
structure TransmitState (α : Type) where
  iq : SearchState α
  dc : SearchState α

/-- The transmit searches before their first trial. -/
def TransmitState.initial : TransmitState α := ⟨.initial .iqBalance, .initial .dcOffset⟩

/-- Try one point of both transmit searches with a single capture. -/
def tryTransmit (rig : Rig σ η α) (config : Config α) (stream : η) (start : TransmitState α)
    (point : TestPoint α) (found : TransmitState α) : Step σ (TransmitState α) := do
  let iq := start.iq.corrections.map (composeIq point.iq)
  let dc := start.dc.corrections.map fun offset => offsetDc offset point.dc
  issue rig (writeTransmit iq dc)
  let block ← capture rig config stream
  let images := Tone.blockLevels block config.txImage config.sampleRate
  let leakages := Tone.blockLevels block (.both config.txDelta) config.sampleRate
  note rig (.transmit iq dc images leakages)
  return ⟨found.iq.offerBoth iq images, found.dc.offerBoth dc leakages⟩

/-- Search for the transmit corrections with the least image and the least leakage. -/
def searchTransmit (rig : Rig σ η α) (config : Config α) (stream : η) :
    Step σ (TransmitState α) :=
  Descent.tryGrids (tryTransmit rig config stream) config.grids .initial

/-- The number of points tried, unless it does not fit a machine word. -/
def countCandidates (config : Config α) : Step σ Nat :=
  if config.candidates < 2 ^ (64 : Nat) then
    Action.pure config.candidates
  else
    Action.fail .overflow

/-- Calibrate with an open stream. -/
def calibrate (rig : Rig σ η α) (config : Config α) (frequency : α) (stream : η) :
    Step σ (Outcome α) := do
  let started ← clock rig
  enter .initial
  issue rig (config.tuning frequency)
  advance
  let rxPgaGain ← adjustGain rig config stream
  advance
  let rxInitial ← capture rig config stream
  let rxIq ← searchReceive rig config stream
  issue rig (rxIq.commands .rx)
  let rxFinal ← capture rig config stream
  advance
  issue rig config.separation
  let txInitial ← capture rig config stream
  let tx ← searchTransmit rig config stream
  issue rig (tx.iq.commands .tx)
  issue rig (tx.dc.commands .tx)
  let txFinal ← capture rig config stream
  advance
  let candidates ← countCandidates config
  let finished ← clock rig
  return {
    frequency := frequency
    rxPgaGain := rxPgaGain
    rxIq := rxIq.result
    txIq := tx.iq.result
    txDc := tx.dc.result
    captures := ⟨rxInitial, rxFinal, txInitial, txFinal⟩
    candidates := candidates
    elapsed := ⟨finished - started⟩ }

/-- Set up the device and calibrate it at a frequency. The settings are taken to obey
the rules. -/
def run (rig : Rig σ η α) (config : Config α) (frequency : α) : Step σ (Outcome α) := do
  issueDuring rig .initial config.setup
  withStream (Progress.rig rig)
    (fun cause => .error (.configuration .initial cause))
    (fun cause => .error (.configuration .done cause))
    (calibrate rig config frequency)

/-- The settings, if they can drive a calibration. -/
def accept [Numeral α] (config : Config α) : Except CalibrationError (Config α) :=
  match config.fault? with
  | some fault => .error (.invalidConfig fault.message)
  | none => .ok config

end Calibration

end LoopbackCalibration
