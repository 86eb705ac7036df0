import LoopbackCalibration.Duration
import LoopbackCalibration.Samples
import LoopbackCalibration.Search.Tracker

/-! # Outcomes

What a finished calibration has found, and the captures taken before and after
each of its searches.
-/

namespace LoopbackCalibration

/-- Captures before and after each search. -/
structure StageCaptures (α : Type) where
  rxInitial : SampleBlock α
  rxFinal : SampleBlock α
  txInitial : SampleBlock α
  txFinal : SampleBlock α

/-- The captures with their names, in the order they are taken. -/
def StageCaptures.toList {α : Type} (captures : StageCaptures α) :
    List (String × SampleBlock α) :=
  [("rx_initial", captures.rxInitial), ("rx_final", captures.rxFinal),
    ("tx_initial", captures.txInitial), ("tx_final", captures.txFinal)]

/-- What a finished calibration has found. -/
structure Outcome (α : Type) where
  /-- Receive frequency in hertz. -/
  frequency : α
  /-- Adjusted receive gain of each channel in decibels. -/
  rxPgaGain : PerChannel α
  rxIq : CorrectionResult α
  txIq : CorrectionResult α
  txDc : CorrectionResult α
  captures : StageCaptures α
  candidates : Nat
  elapsed : Duration

end LoopbackCalibration
