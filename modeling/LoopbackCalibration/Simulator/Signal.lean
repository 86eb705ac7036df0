import LoopbackCalibration.Simulator.Model

/-! # The simulated signal

A sample of a channel is computed from the settings of the device and from its
index since the device was made, and from nothing else but noise. On the transmit
side the constant tone is turned by the baseband oscillator and gains its image
and the offset leakage. The loopback scales it by the receive gain, adds crosstalk
and turns it by the offset of the oscillators, and the receive side adds its own
image.
-/

namespace LoopbackCalibration

namespace Signal

variable {α : Type} [Scalar α]

/-- What remains of an imbalance after a correction: half of its distance from one. -/
def imbalanceError (imbalance correction : Phasor α) : Phasor α :=
  (imbalance * correction - .one).divide Arithmetic.two

/-- A transmit path while one read lasts. -/
structure TxPath (α : Type) where
  tone : Bool
  oscillator : α
  image : Phasor α
  offset : Phasor α

/-- A receive path while one read lasts. -/
structure RxPath (α : Type) where
  rate : α
  /-- Frequency by which the loopback is turned. -/
  shift : α
  gain : α
  image : Phasor α

/-- A unit phasor turning at a frequency, at a time. -/
@[inline] def rotation (frequency time : α) : Phasor α :=
  .ofPolar 1 (Arithmetic.two * Scalar.pi * frequency * time)

/-- A signal with its image, which a coefficient scales. -/
@[inline] def withImage (coefficient signal : Phasor α) : Phasor α :=
  signal + coefficient * signal.conj

/-- What a transmit path puts out at a time. -/
@[inline] def TxPath.output (path : TxPath α) (time : α) : Phasor α :=
  if path.tone then
    withImage path.image (rotation path.oscillator time) + path.offset
  else
    path.offset

/-- The signal paths behind one buffer. -/
structure Chain (α : Type) where
  own : TxPath α
  other : TxPath α
  rx : RxPath α
  crosstalk : α

/-- What a channel receives at a sample, noise aside. -/
@[inline] def Chain.sample (chain : Chain α) (index : Nat) : Phasor α :=
  let time := Arithmetic.ofCount index / chain.rx.rate
  let looped := chain.own.output time + (chain.other.output time).scale chain.crosstalk
  withImage chain.rx.image (looped.scale chain.rx.gain * rotation chain.rx.shift time)

end Signal

end LoopbackCalibration
