import LoopbackCalibration.Channel
import LoopbackCalibration.Phasor

/-! # Trials

A search tries a test point by applying corrections on both channels and measuring
the level that each channel is left with. The receive search tries IQ corrections;
the transmit search tries IQ and offset corrections at once.
-/

namespace LoopbackCalibration

/-- What was tried at a test point, and what was measured with it. -/
inductive Trial (α : Type) where
  /-- Receive IQ corrections with the levels of the image. -/
  | receive (iq : PerChannel (Phasor α)) (images : PerChannel α)
  /-- Transmit IQ and offset corrections with the levels of the image and the leakage. -/
  | transmit (iq dc : PerChannel (Phasor α)) (images leakages : PerChannel α)
  deriving Repr, DecidableEq

end LoopbackCalibration
