import LoopbackCalibration.Calibration.Run
import LoopbackCalibration.Proofs.Action.Ensures

/-! # Calibrations by stages

The calls of a run belong to stages: the setup, the opening of the stream and the tuning to
the first one, the gain adjustment to the second, all from the capture before the receive
search to the one after it to the third, all from the separation of the transmit tones to
the capture after the transmit search to the fourth, and the close to the last. With a rig
for each stage this is `Calibration.runInStages`, where the rig that a call is made on
tells the stage that the call belongs to, whatever stage the run itself keeps. With the
same rig for all stages it is `Calibration.run`. The stage that the run keeps is shown to the
world whenever it has been written in `Calibration.runWatched`, which is the same run when the
world pays no attention.
-/

namespace LoopbackCalibration

/-- A stage beside the world makes no difference to what is ensured of the world. -/
theorem Progress.ensures_onWorld {σ ε β : Type} {action : Action σ ε β} {before : σ → Prop}
    {success : β → σ → Prop} {failure : ε → σ → Prop}
    (ensures : Action.Ensures before action success failure) :
    Action.Ensures (fun progress => before progress.world) (Progress.onWorld action)
      (fun value progress => success value progress.world)
      fun cause progress => failure cause progress.world :=
  ensures.onPart fun _ _ => rfl

namespace Calibration

variable {σ η α : Type} [Scalar α]

/-- Calibrate with an open stream, making the calls of each stage on the rig of the stage. -/
def calibrateInStages (rigs : Stage → Rig σ η α) (config : Config α) (frequency : α)
    (stream : η) : Step σ (Outcome α) := do
  let started ← clock (rigs .initial)
  enter .initial
  issue (rigs .initial) (config.tuning frequency)
  advance
  let rxPgaGain ← adjustGain (rigs .rxGainAdjust) config stream
  advance
  let rxInitial ← capture (rigs .rxIqSearch) config stream
  let rxIq ← searchReceive (rigs .rxIqSearch) config stream
  issue (rigs .rxIqSearch) (rxIq.commands .rx)
  let rxFinal ← capture (rigs .rxIqSearch) config stream
  advance
  issue (rigs .txIqDcSearch) config.separation
  let txInitial ← capture (rigs .txIqDcSearch) config stream
  let tx ← searchTransmit (rigs .txIqDcSearch) config stream
  issue (rigs .txIqDcSearch) (tx.iq.commands .tx)
  issue (rigs .txIqDcSearch) (tx.dc.commands .tx)
  let txFinal ← capture (rigs .txIqDcSearch) config stream
  advance
  let candidates ← countCandidates config
  let finished ← clock (rigs .done)
  return {
    frequency := frequency
    rxPgaGain := rxPgaGain
    rxIq := rxIq.result
    txIq := tx.iq.result
    txDc := tx.dc.result
    captures := ⟨rxInitial, rxFinal, txInitial, txFinal⟩
    candidates := candidates
    elapsed := ⟨finished - started⟩ }

/-- The rig that the stream is opened and closed on: opened in the first stage and closed in
the last. -/
def streamRig (rigs : Stage → Rig σ η α) : Rig σ η α :=
  { rigs .initial with closeStream := (rigs .done).closeStream }

/-- Set up and calibrate, making the calls of each stage on the rig of the stage. -/
def runInStages (rigs : Stage → Rig σ η α) (config : Config α) (frequency : α) :
    Step σ (Outcome α) := do
  issueDuring (rigs .initial) .initial config.setup
  withStream (Progress.rig (streamRig rigs))
    (fun cause => .error (.configuration .initial cause))
    (fun cause => .error (.configuration .done cause))
    (calibrateInStages rigs config frequency)

theorem run_eq_inStages (rig : Rig σ η α) : run rig = runInStages fun _ => rig := rfl

/-- Show the stage that the run is in. -/
def reveal (watch : Stage → σ → σ) : Step σ Unit :=
  Action.modify fun progress => { progress with world := watch progress.stage progress.world }

/-- Calibrate in stages, showing the stage whenever it has been written. -/
def calibrateWatched (watch : Stage → σ → σ) (rigs : Stage → Rig σ η α) (config : Config α)
    (frequency : α) (stream : η) : Step σ (Outcome α) := do
  let started ← clock (rigs .initial)
  enter .initial
  reveal watch
  issue (rigs .initial) (config.tuning frequency)
  advance
  reveal watch
  let rxPgaGain ← adjustGain (rigs .rxGainAdjust) config stream
  advance
  reveal watch
  let rxInitial ← capture (rigs .rxIqSearch) config stream
  let rxIq ← searchReceive (rigs .rxIqSearch) config stream
  issue (rigs .rxIqSearch) (rxIq.commands .rx)
  let rxFinal ← capture (rigs .rxIqSearch) config stream
  advance
  reveal watch
  issue (rigs .txIqDcSearch) config.separation
  let txInitial ← capture (rigs .txIqDcSearch) config stream
  let tx ← searchTransmit (rigs .txIqDcSearch) config stream
  issue (rigs .txIqDcSearch) (tx.iq.commands .tx)
  issue (rigs .txIqDcSearch) (tx.dc.commands .tx)
  let txFinal ← capture (rigs .txIqDcSearch) config stream
  advance
  reveal watch
  let candidates ← countCandidates config
  let finished ← clock (rigs .done)
  return {
    frequency := frequency
    rxPgaGain := rxPgaGain
    rxIq := rxIq.result
    txIq := tx.iq.result
    txDc := tx.dc.result
    captures := ⟨rxInitial, rxFinal, txInitial, txFinal⟩
    candidates := candidates
    elapsed := ⟨finished - started⟩ }

/-- Set up and calibrate in stages, showing the stage whenever it has been written. -/
def runWatched (watch : Stage → σ → σ) (rigs : Stage → Rig σ η α) (config : Config α)
    (frequency : α) : Step σ (Outcome α) := do
  issueDuring (rigs .initial) .initial config.setup
  withStream (Progress.rig (streamRig rigs))
    (fun cause => .error (.configuration .initial cause))
    (fun cause => .error (.configuration .done cause))
    (calibrateWatched watch rigs config frequency)

theorem calibrateInStages_eq_watched (rigs : Stage → Rig σ η α) (config : Config α) :
    calibrateInStages rigs config = calibrateWatched (fun _ => id) rigs config := rfl

theorem runInStages_eq_watched (rigs : Stage → Rig σ η α) (config : Config α) :
    runInStages rigs config = runWatched (fun _ => id) rigs config := rfl

end Calibration

end LoopbackCalibration
