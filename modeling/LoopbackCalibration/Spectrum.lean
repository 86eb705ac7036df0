import LoopbackCalibration.Fourier
import LoopbackCalibration.Tone
import LoopbackCalibration.Window

/-! # Averaged power spectra

A capture is cut into frames of the transform's size; what does not fill a frame
is left out. Each frame is windowed and transformed, its coefficients are
reordered so that the frequency rises from minus half the rate, and each bin's
level is taken relative to a full-scale tone. The spectrum is the mean of the
frames in linear power.

`binFrequencies` and `binPosition` describe the same axis from its two sides: the
frequency of a bin and the bin of a frequency.
-/

namespace LoopbackCalibration

namespace Spectrum

/-- Why a spectrum cannot be taken. -/
inductive Fault where
  /-- The transform size is zero or odd. -/
  | invalidSize (size : Nat)
  /-- The capture does not fill one frame. -/
  | insufficientSamples (required provided : Nat)
  deriving Repr, DecidableEq

/-- What the fault is reported as. -/
def Fault.message : Fault → String
  | .invalidSize size => s!"Invalid FFT size: {size} (must be positive and even)"
  | .insufficientSamples required provided =>
    s!"Insufficient samples: need at least {required}, got {provided}"

/-- The name of the kind of fault. -/
def Fault.kind : Fault → String
  | .invalidSize _ => "InvalidFftSize"
  | .insufficientSamples .. => "InsufficientSamples"

variable {α : Type} [Scalar α]

/-- Where coefficient `index` of `size` stands in a spectrum that rises in
frequency, and also which coefficient stands at that position. -/
def reorder (size index : Nat) : Nat :=
  (index + size / 2) % size

/-- What the level of a bin exceeds its level relative to a full-scale tone by. -/
def reference (window : Array α) : α :=
  Arithmetic.ofCount 20 * Scalar.log10 (Arithmetic.ofCount window.size) +
    Arithmetic.ofCount 10 * Scalar.log10 (Window.power window)

/-- The frame of a capture that starts at a sample, with the window applied. -/
def frame (window : Array α) (samples : Array (Phasor α)) (start : Nat) : Array (Phasor α) :=
  Array.ofFn fun index : Fin window.size =>
    (samples.getD (start + index) .zero).scale window[index]

/-- The linear power of each bin of one frame, in rising frequency. `offset` is what
the level of a bin exceeds its level relative to a full-scale tone by. -/
def framePowers (window : Array α) (offset : α) (samples : Array (Phasor α)) (start : Nat) :
    Array α :=
  let bins := Fourier.transform window.size (frame window samples start)
  Array.ofFn fun index : Fin window.size =>
    let bin := bins.getD (reorder window.size index) .zero
    Scalar.exp10 ((Tone.levelOfMagnitude bin.magnitude - offset) / Arithmetic.ofCount 10)

/-- The linear powers of the first frames of a capture, summed bin by bin. -/
def sumPowers (window : Array α) (samples : Array (Phasor α)) (frames : Nat) : Array α :=
  let offset := reference window
  frames.fold (fun index _ sums =>
      Array.zipWith (· + ·) sums (framePowers window offset samples (index * window.size)))
    (Array.replicate window.size 0)

/-- Level of each bin, in rising frequency, averaged over the whole frames. -/
def levels (samples : Array (Phasor α)) (size : Nat) : Except Fault (Array α) :=
  if size = 0 ∨ size % 2 ≠ 0 then
    .error (.invalidSize size)
  else
    let frames := samples.size / size
    if frames = 0 then
      .error (.insufficientSamples size samples.size)
    else
      .ok ((sumPowers (Window.hann size) samples frames).map fun power =>
        Arithmetic.ofCount 10 * Scalar.log10 (power / Arithmetic.ofCount frames))

section Axis

variable {α : Type} [Arithmetic α]

/-- The frequency of a bin's centre. -/
def binFrequency (size : Nat) (rate : α) (index : Nat) : α :=
  -rate / Arithmetic.two + Arithmetic.ofCount index * (rate / Arithmetic.ofCount size)

/-- The frequencies of all bins, in order. -/
def binFrequencies (size : Nat) (rate : α) : Array α :=
  Array.ofFn fun index : Fin size => binFrequency size rate index

/-- The position of a frequency in a spectrum, before it is brought into range: the
middle bin plus the whole bins the frequency lies away from it. -/
def binPosition (size : Nat) (frequency rate : α) : Int :=
  ((size / 2 : Nat) : Int) +
    Arithmetic.truncate (Arithmetic.ofCount size * frequency / rate)

/-- Whether an integer fits a signed 64-bit word. -/
def fitsWord (value : Int) : Prop :=
  -2 ^ (63 : Nat) ≤ value ∧ value < 2 ^ (63 : Nat)

instance (value : Int) : Decidable (fitsWord value) := by
  unfold fitsWord
  infer_instance

/-- Index of the bin of a frequency, the first or last one beyond the ends. There is
none in an empty spectrum, and none when the size or the position overflows a word. -/
def binIndex? (size : Nat) (frequency rate : α) : Option Nat :=
  let position := binPosition size frequency rate
  if size = 0 ∨ ¬fitsWord size ∨ ¬fitsWord position then
    none
  else
    some (min position.toNat (size - 1))

/-- The bins read for a marker: from three below the centre to two above it, as far
as the spectrum goes. -/
def markerWindow (spectrum : Array α) (centre : Nat) : List α :=
  (spectrum.extract (centre - 3) (min (centre + 3) spectrum.size)).toList

/-- The largest of a list of levels, passing over what is not a number. -/
def peak? : List α → Option α
  | [] => none
  | first :: rest => some (rest.foldl Arithmetic.larger first)

/-- What reading a marker finds. -/
inductive Reading (α : Type) where
  | absent
  | found (level : α)
  /-- The position of the frequency overflows a word. -/
  | outOfRange
  deriving Repr, DecidableEq

/-- The highest level near a frequency. -/
def markerLevel (spectrum : Array α) (frequency rate : α) : Reading α :=
  if spectrum.isEmpty then
    .absent
  else
    match binIndex? spectrum.size frequency rate with
    | none => .outOfRange
    | some centre =>
      match peak? (markerWindow spectrum centre) with
      | none => .absent
      | some level => .found level

end Axis

end Spectrum

end LoopbackCalibration
