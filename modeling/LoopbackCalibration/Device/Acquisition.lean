import LoopbackCalibration.Device.Transceiver
import LoopbackCalibration.Samples

/-! # Burst acquisition

A capture starts a burst of `n` samples per channel and reads until both channels
hold `n`. Partial reads accumulate, and a read that times out is tried again.
Before each read the stop request is looked at first and the deadline second. The
readings of the clock are compared with the deadline as they are; a capture ends because
its rig has only so much patience.
-/

namespace LoopbackCalibration

/-- Limits of one capture. -/
structure AcquisitionOptions where
  timeout : Duration := .ofSeconds 5
  readTimeout : Duration := .ofMilliseconds 100
  /-- Whether the capture is to stop before its first read. -/
  cancelled : Bool := false
  deriving Repr, DecidableEq, Inhabited

/-- Samples collected so far, equally many on both channels. -/
structure RawCapture (α : Type) where
  channels : PerChannel (Array (Phasor α))
  sameSize : channels.a.size = channels.b.size

namespace RawCapture

variable {α : Type}

/-- Nothing held yet. -/
def empty : RawCapture α := ⟨.both #[], rfl⟩

/-- How many samples each channel holds. -/
def size (raw : RawCapture α) : Nat := raw.channels.a.size

variable [Arithmetic α]

/-- The capture with the first samples of a delivery after its own. -/
def append (raw : RawCapture α) (delivery : Delivery α) (count : Nat) : RawCapture α :=
  ⟨⟨raw.channels.a ++ delivery.taken 0 count, raw.channels.b ++ delivery.taken 1 count⟩,
    by simp [raw.sameSize]⟩

/-- The block of a capture: each channel less its mean. -/
def block (raw : RawCapture α) : SampleBlock α :=
  .ofRaw raw.channels raw.sameSize

@[simp] theorem size_append (raw : RawCapture α) (delivery : Delivery α) (count : Nat) :
    (raw.append delivery count).size = raw.size + count := by
  simp [append, size]

end RawCapture

namespace Acquisition

/-- The first instant that the clock cannot show: a signed 64-bit count of seconds
overflows there. -/
def horizon : Nat := 2 ^ (63 : Nat) * 1000000000

/-- The most samples of eight bytes each that one buffer can hold. -/
def capacity : Nat := (2 ^ (63 : Nat) - 1) / 8

variable {σ η α : Type} [Arithmetic α]

/-- Read until `requested` samples per channel are held. `deadline` is an instant of the
clock. Every round that is not the last one uses up patience of the rig. -/
def collect (rig : Rig σ η α) (stream : η) (options : AcquisitionOptions)
    (requested deadline : Nat) (raw : RawCapture α) :
    Action σ AcquisitionError (RawCapture α) :=
  fun world =>
    if requested ≤ raw.size then
      (.ok raw, world)
    else if options.cancelled || rig.stopRequested world then
      (.error (.cancelled raw.size), world)
    else
      match _ : rig.now world with
      | (instant, looked) =>
        if deadline ≤ instant then
          (.error (.timeout raw.size requested options.timeout), looked)
        else
          let room := requested - raw.size
          let wait := min options.readTimeout.nanoseconds (deadline - instant)
          match _ : rig.read stream [room, room] ⟨wait⟩ looked with
          | (.ok delivery, after) =>
            collect rig stream options requested deadline
              (raw.append delivery (min delivery.count room)) after
          | (.error status, after) =>
            if status.isTimeout then
              collect rig stream options requested deadline raw after
            else
              (.error (.readStatus status raw.size), after)
termination_by world => rig.patience stream (requested - raw.size) deadline world
decreasing_by
  · have missing : requested - (raw.size + min delivery.count (requested - raw.size)) =
        requested - raw.size - delivery.count := by omega
    rw [RawCapture.size_append, missing]
    exact Rig.patience_lt_of_read (by omega) ‹_› (by omega) ‹rig.read stream _ _ _ = _› rfl
  · have again : Delivery.missing (α := α) (requested - raw.size) (.error status) =
        some (requested - raw.size) := if_pos ‹_›
    exact Rig.patience_lt_of_read (by omega) ‹_› (by omega) ‹rig.read stream _ _ _ = _› again

/-- One round of the loop, without the equations that its end rests on. -/
theorem collect_eq (rig : Rig σ η α) (stream : η) (options : AcquisitionOptions)
    (requested deadline : Nat) (raw : RawCapture α) (world : σ) :
    collect rig stream options requested deadline raw world =
      if requested ≤ raw.size then
        (.ok raw, world)
      else if options.cancelled || rig.stopRequested world then
        (.error (.cancelled raw.size), world)
      else if deadline ≤ (rig.now world).1 then
        (.error (.timeout raw.size requested options.timeout), (rig.now world).2)
      else
        let room := requested - raw.size
        let wait := min options.readTimeout.nanoseconds (deadline - (rig.now world).1)
        match rig.read stream [room, room] ⟨wait⟩ (rig.now world).2 with
        | (.ok delivery, after) =>
          collect rig stream options requested deadline
            (raw.append delivery (min delivery.count room)) after
        | (.error status, after) =>
          if status.isTimeout then
            collect rig stream options requested deadline raw after
          else
            (.error (.readStatus status raw.size), after) := by
  rw [collect]
  dsimp only
  congr 3
  split <;> simp only [*]

theorem collect_complete (rig : Rig σ η α) (stream : η) (options : AcquisitionOptions)
    {requested deadline : Nat} {raw : RawCapture α} (complete : requested ≤ raw.size)
    (world : σ) : collect rig stream options requested deadline raw world = (.ok raw, world) := by
  rw [collect_eq, if_pos complete]

/-- A round in which something is read. -/
theorem collect_of_read {rig : Rig σ η α} {stream : η} {options : AcquisitionOptions}
    {requested deadline instant : Nat} {raw : RawCapture α} {world looked after : σ}
    {result : Except StatusCode (Delivery α)} (missing : ¬requested ≤ raw.size)
    (wanted : ¬(options.cancelled || rig.stopRequested world) = true)
    (look : rig.now world = (instant, looked)) (early : ¬deadline ≤ instant) :
    rig.read stream [requested - raw.size, requested - raw.size]
        ⟨min options.readTimeout.nanoseconds (deadline - instant)⟩ looked = (result, after) →
      collect rig stream options requested deadline raw world =
        match result with
        | .ok delivery => collect rig stream options requested deadline
            (raw.append delivery (min delivery.count (requested - raw.size))) after
        | .error status =>
          if status.isTimeout then
            collect rig stream options requested deadline raw after
          else
            (.error (.readStatus status raw.size), after) := by
  intro read
  rw [collect_eq, if_neg missing, if_neg wanted, look, if_neg early]
  simp only [read]
  cases result <;> rfl

/-- Capture a number of samples per channel from an open stream. -/
def acquire (rig : Rig σ η α) (stream : η) (requested : Nat) (options : AcquisitionOptions) :
    Action σ (Halt AcquisitionError) (SampleBlock α) :=
  fun world =>
    match rig.activate stream requested world with
    | (.error cause, world) => (.error (.error (.device cause)), world)
    | (.ok _, world) =>
      if capacity < requested then
        (.error .overflow, world)
      else
        match rig.now world with
        | (start, world) =>
          let deadline := start + options.timeout.nanoseconds
          if horizon ≤ deadline then
            (.error .overflow, world)
          else
            match collect rig stream options requested deadline .empty world with
            | (.ok raw, world) => (.ok raw.block, world)
            | (.error cause, world) => (.error (.error cause), world)

end Acquisition

end LoopbackCalibration
