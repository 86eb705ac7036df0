import LoopbackCalibration.Channel
import LoopbackCalibration.Phasor

/-! # Sample blocks

A capture of both channels becomes a block once each channel's mean is taken
off. The mean is accumulated in full precision; it is stored as a sample and
subtracted from samples, so each difference is stored again.
-/

namespace LoopbackCalibration

namespace Samples

variable {α : Type} [Arithmetic α]

/-- The samples added up from the first to the last. -/
def sum (samples : Array (Phasor α)) : Phasor α :=
  samples.foldl (fun total sample => total + sample) .zero

/-- The arithmetic mean of a nonempty sequence of samples. -/
def mean (samples : Array (Phasor α)) : Phasor α :=
  (sum samples).divide (Arithmetic.ofCount samples.size)

/-- The samples less their mean. The mean and the differences pass through
`store`, which is the identity for samples kept in full precision. -/
def removeMean (store : Phasor α → Phasor α) (samples : Array (Phasor α)) : Array (Phasor α) :=
  if samples.isEmpty then
    samples
  else
    let offset := store (mean samples)
    samples.map fun sample => store (sample - offset)

@[simp] theorem size_removeMean (store : Phasor α → Phasor α) (samples : Array (Phasor α)) :
    (removeMean store samples).size = samples.size := by
  unfold removeMean
  split <;> simp

end Samples

/-- One capture of both channels, of equal length and without offset. -/
structure SampleBlock (α : Type) where
  channels : PerChannel (Array (Phasor α))
  sameSize : channels.a.size = channels.b.size

namespace SampleBlock

variable {α : Type}

/-- The samples of a channel. -/
@[inline] def samples (block : SampleBlock α) (channel : Channel) : Array (Phasor α) :=
  block.channels.get channel

/-- How many samples each channel has. -/
def size (block : SampleBlock α) : Nat :=
  block.channels.a.size

/-- The block has no samples. -/
def isEmpty (block : SampleBlock α) : Bool :=
  block.size == 0

variable [Arithmetic α]

/-- The block of raw samples: each channel less its mean. -/
def ofRaw (raw : PerChannel (Array (Phasor α))) (sameSize : raw.a.size = raw.b.size) :
    SampleBlock α :=
  ⟨raw.map (Samples.removeMean .stored), by simpa [PerChannel.map] using sameSize⟩

/-- The block of two raw captures, none when their lengths differ. -/
def ofRaw? (raw : PerChannel (Array (Phasor α))) : Option (SampleBlock α) :=
  if same : raw.a.size = raw.b.size then some (ofRaw raw same) else none

theorem ofRaw?_eq_none_iff (raw : PerChannel (Array (Phasor α))) :
    ofRaw? raw = none ↔ raw.a.size ≠ raw.b.size := by
  unfold ofRaw?
  split <;> simp_all

end SampleBlock

end LoopbackCalibration
