import LoopbackCalibration.Samples

/-! # Tone measurement

The component of a capture at a frequency is found by mixing the capture with
the opposite rotation, which brings that component to rest, and taking the mean.
The frequency need not fall on a bin of the capture. Levels are in decibels
relative to full scale, and magnitudes below a floor count as the floor.
-/

namespace LoopbackCalibration

namespace Tone

variable {α : Type} [Scalar α]

/-- The least magnitude that a level tells apart. -/
def magnitudeFloor : α :=
  Arithmetic.ratio 1 (10 ^ (20 : Nat))

/-- The level of a magnitude in decibels. -/
@[inline] def levelOfMagnitude (magnitude : α) : α :=
  Arithmetic.ofCount 20 * Scalar.log10 (Arithmetic.larger magnitude magnitudeFloor)

/-- The angle by which the mixer turns from one sample to the next. -/
def mixerStep (frequency rate : α) : α :=
  -Arithmetic.two * Scalar.pi * frequency / rate

/-- The running sum of mixed samples: the sum so far and the index of the next
sample. -/
@[inline] def mix (step : α) (state : Phasor α × Nat) (sample : Phasor α) : Phasor α × Nat :=
  (state.1 + sample * .ofPolar 1 (step * Arithmetic.ofCount state.2), state.2 + 1)

/-- Complex amplitude of the component of a capture at a frequency. -/
def amplitude (samples : Array (Phasor α)) (frequency rate : α) : Phasor α :=
  if samples.isEmpty then
    .zero
  else
    let step := mixerStep frequency rate
    (samples.foldl (mix step) (.zero, 0)).1.divide (Arithmetic.ofCount samples.size)

/-- The level of a tone in samples. -/
def level (samples : Array (Phasor α)) (frequency rate : α) : α :=
  levelOfMagnitude (amplitude samples frequency rate).magnitude

/-- The level of each channel's tone in a block. -/
def blockLevels (block : SampleBlock α) (frequencies : PerChannel α) (rate : α) : PerChannel α :=
  .ofFn fun channel => level (block.samples channel) (frequencies.get channel) rate

end Tone

end LoopbackCalibration
