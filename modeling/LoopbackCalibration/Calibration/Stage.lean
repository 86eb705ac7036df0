/-! # Stages of a calibration

A calibration runs through five stages in a fixed order.
-/

namespace LoopbackCalibration

/-- Stage of a calibration. -/
inductive Stage where
  | initial
  /-- One-shot receive gain adjustment. -/
  | rxGainAdjust
  | rxIqSearch
  /-- Joint search for the transmit IQ and offset corrections. -/
  | txIqDcSearch
  | done
  deriving Repr, DecidableEq

namespace Stage

/-- Every stage, in the order of a run. -/
def all : List Stage := [.initial, .rxGainAdjust, .rxIqSearch, .txIqDcSearch, .done]

/-- The name that a stage is reported with. -/
def name : Stage → String
  | .initial => "INIT"
  | .rxGainAdjust => "RX_GAIN_ADJUST"
  | .rxIqSearch => "RX_IQ_SEARCH"
  | .txIqDcSearch => "TX_IQ_DC_SEARCH"
  | .done => "DONE"

/-- The stage that follows, except after the last one. -/
def next? : Stage → Option Stage
  | .initial => some .rxGainAdjust
  | .rxGainAdjust => some .rxIqSearch
  | .rxIqSearch => some .txIqDcSearch
  | .txIqDcSearch => some .done
  | .done => none

/-- How many stages come before this one. -/
def rank : Stage → Nat
  | .initial => 0
  | .rxGainAdjust => 1
  | .rxIqSearch => 2
  | .txIqDcSearch => 3
  | .done => 4

instance : LT Stage := ⟨fun left right => left.rank < right.rank⟩

instance (left right : Stage) : Decidable (left < right) :=
  inferInstanceAs (Decidable (left.rank < right.rank))

end Stage

end LoopbackCalibration
