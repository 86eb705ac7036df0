import LoopbackCalibration.Correction
import LoopbackCalibration.Channel
import LoopbackCalibration.Decimal
import LoopbackCalibration.Decimal.Reader
import LoopbackCalibration.Device.Arguments
import LoopbackCalibration.Device.Error

/-! # The loopback model

The impairments of a simulated transceiver are known in advance, and so are the
corrections that cancel them.
-/

namespace LoopbackCalibration

/-- Impairments and signal levels of a simulated loopback. -/
structure LoopbackModel (α : Type) where
  /-- True receive imbalance of each channel. -/
  rxImbalance : PerChannel (Phasor α)
  /-- True transmit imbalance of each channel. -/
  txImbalance : PerChannel (Phasor α)
  /-- True transmit offset leakage of each channel. -/
  txLeakage : PerChannel (Phasor α)
  /-- Received tone amplitude at an amplifier gain of zero. -/
  toneAmplitude : α
  /-- Relative amplitude of the other channel's signal. -/
  crosstalk : α
  /-- Root mean square of the complex receiver noise. -/
  noiseRms : α
  seed : Nat
  /-- The most samples that one read returns. -/
  maxRead : Nat
  deriving Repr

namespace LoopbackModel

section Defaults

variable {α : Type} [Scalar α]

/-- A small imbalance: a power of two and an angle, both in hundredths. -/
def imbalance (power angle : Int) : Phasor α :=
  let scalar (hundredths : Int) : α :=
    let magnitude := Arithmetic.ratio hundredths.natAbs 100
    if hundredths < 0 then -magnitude else magnitude
  .ofPolar (Scalar.exp2 (scalar power)) (scalar angle)

/-- The model of a device that nothing else is said of. -/
def standard : LoopbackModel α where
  rxImbalance := ⟨imbalance 15 12, imbalance (-10) (-20)⟩
  txImbalance := ⟨imbalance (-12) 18, imbalance 20 (-10)⟩
  txLeakage :=
    ⟨⟨Arithmetic.ratio 6 100, -Arithmetic.ratio 4 100⟩,
      ⟨-Arithmetic.ratio 3 100, Arithmetic.ratio 8 100⟩⟩
  toneAmplitude := Arithmetic.ratio 3 100
  crosstalk := Arithmetic.ratio 1 100
  noiseRms := Arithmetic.ratio 1 100000
  seed := 0x5eed
  maxRead := 4096

/-- Standard deviation of each part of the noise. -/
def noiseSigma (model : LoopbackModel α) : α :=
  Arithmetic.larger (model.noiseRms / Scalar.sqrt Arithmetic.two) 0

end Defaults

section Optimum

variable {α : Type} [Arithmetic α]

/-- The receive correction that cancels the receive image. -/
def optimalRxIq (model : LoopbackModel α) (channel : Channel) : Phasor α :=
  (model.rxImbalance.get channel).inverse

/-- The transmit correction that cancels the transmit image. -/
def optimalTxIq (model : LoopbackModel α) (channel : Channel) : Phasor α :=
  (model.txImbalance.get channel).inverse

/-- The offset that cancels the transmit leakage. -/
def optimalTxDc (model : LoopbackModel α) (channel : Channel) : Phasor α :=
  -model.txLeakage.get channel

end Optimum

/-- The model with the value of one argument read into it, if the argument is given.
A value that cannot be read is refused by name. -/
def withArgument {β : Type} (arguments : DeviceArguments) (key : String)
    (read? : List Char → Option β) (update : LoopbackModel Float → β → LoopbackModel Float)
    (model : LoopbackModel Float) : Except DeviceError (LoopbackModel Float) :=
  match arguments.get? key with
  | none => .ok model
  | some text =>
    match read? text.toList with
    | some value => .ok (update model value)
    | none => .error (.configuration "parse_args" s!"invalid {key}: {text}")

/-- The standard model with the seed, the noise and the read size that arguments
give, looked at in this order. -/
def ofArguments (arguments : DeviceArguments) : Except DeviceError (LoopbackModel Float) := do
  let seeded ← withArgument arguments "seed" (Decimal.readCount? Decimal.limit64)
    (fun model seed => { model with seed }) standard
  let noisy ← withArgument arguments "noise" Decimal.readReal?
    (fun model noiseRms => { model with noiseRms }) seeded
  withArgument arguments "max_read" (Decimal.readCount? Decimal.limit64)
    (fun model maxRead => { model with maxRead }) noisy

end LoopbackModel

end LoopbackCalibration
