import LoopbackCalibration.Phasor

/-! # Test signals

A test signal is the sum of a repeated sequence, of rotating tones and of noise from
a linear congruential sequence. Its samples are computed in full precision.
-/

namespace LoopbackCalibration

/-- A description of a sampled signal. -/
structure TestSignal (α : Type) where
  size : Nat
  rate : α
  /-- A sequence repeated from the first sample on. -/
  repeated : Array (Phasor α)
  /-- Tones by frequency and amplitude. -/
  tones : List (α × Phasor α)
  /-- Where the noise starts, and its scale. -/
  noise : Option (UInt64 × α)

namespace TestSignal

variable {α : Type} [Scalar α]

/-- The next state of the linear congruential generator behind the noise. -/
def advance (state : UInt64) : UInt64 :=
  state * 6364136223846793005 + 1442695040888963407

/-- The noise value of a state: the upper bits as a number between minus one and one. -/
def noiseValue (state : UInt64) : α :=
  (Arithmetic.ofCount (state >>> 40).toNat - Arithmetic.ofCount (2 ^ (23 : Nat))) /
    Arithmetic.ofCount (2 ^ (23 : Nat))

/-- The sample at an index without noise: the repeated samples with the tones on top. -/
def clean (signal : TestSignal α) (index : Nat) : Phasor α :=
  let time := Arithmetic.ofCount index / signal.rate
  signal.tones.foldl (fun sample (frequency, amplitude) =>
      sample + amplitude * .ofPolar 1 (Arithmetic.two * Scalar.pi * frequency * time))
    (signal.repeated.getD (index % signal.repeated.size) .zero)

/-- Samples put behind those that there are, with noise from a generator state if one is given. -/
def extend (signal : TestSignal α) :
    Nat → Array (Phasor α) → Option (UInt64 × α) → Array (Phasor α)
  | 0, samples, _ => samples
  | ahead + 1, samples, noise =>
    let sample := signal.clean samples.size
    match noise with
    | none => extend signal ahead (samples.push sample) none
    | some (state, scale) =>
      let first := advance state
      let second := advance first
      let noisy := sample + Phasor.scale ⟨noiseValue first, noiseValue second⟩ scale
      extend signal ahead (samples.push noisy) (some (second, scale))

/-- All samples of the signal. -/
def samples (signal : TestSignal α) : Array (Phasor α) :=
  extend signal signal.size #[] signal.noise

end TestSignal

end LoopbackCalibration
