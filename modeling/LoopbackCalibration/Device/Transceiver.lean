import LoopbackCalibration.Action
import LoopbackCalibration.Channel
import LoopbackCalibration.Correction
import LoopbackCalibration.Device.Error
import LoopbackCalibration.Search.Trial

/-! # Transceivers

A calibration drives a transceiver only through commands, which set something up,
and through the calls of a receive stream. A transceiver is given by what each of
these does to its state. A `Rig` is a transceiver together with the clock and the
stop request that a capture consults, and with a listener that a search tells of its
trials. The clock may show what it will, but no capture on a rig goes on for ever.
-/

namespace LoopbackCalibration

/-- Tuning stage of a path. -/
inductive FrequencyStage where
  | rf
  | baseband
  deriving Repr, DecidableEq

namespace FrequencyStage

/-- Both stages, the oscillator first. -/
def all : List FrequencyStage := [.rf, .baseband]

/-- The driver's name for a stage. -/
def name : FrequencyStage → String
  | .rf => "RF"
  | .baseband => "BB"

end FrequencyStage

/-- Gain element of a path. -/
inductive GainStage where
  /-- Receive programmable amplifier. -/
  | pga
  /-- Receive transimpedance amplifier. -/
  | tia
  /-- Receive low-noise amplifier. -/
  | lna
  /-- Receive loopback low-noise amplifier. -/
  | lbLna
  /-- Transmit power amplifier driver. -/
  | pad
  /-- Transmit loopback power amplifier driver. -/
  | lbPad
  deriving Repr, DecidableEq

namespace GainStage

/-- Every gain element, receive elements first. -/
def all : List GainStage := [.pga, .tia, .lna, .lbLna, .pad, .lbPad]

/-- The driver's name for a gain element. -/
def name : GainStage → String
  | .pga => "PGA"
  | .tia => "TIA"
  | .lna => "LNA"
  | .lbLna => "LB_LNA"
  | .pad => "PAD"
  | .lbPad => "LB_PAD"

end GainStage

/-- A call that sets something up on a transceiver. -/
inductive Command (α : Type) where
  | frequency (direction : Direction) (channel : Channel) (stage : FrequencyStage) (hertz : α)
  | gain (direction : Direction) (channel : Channel) (stage : GainStage) (decibels : α)
  | antenna (direction : Direction) (channel : Channel) (connector : String)
  | dcOffset (direction : Direction) (channel : Channel) (offset : Phasor α)
  | iqBalance (direction : Direction) (channel : Channel) (balance : Phasor α)
  | dcOffsetMode (direction : Direction) (channel : Channel) (automatic : Bool)
  | masterClockRate (hertz : α)
  | sampleRate (direction : Direction) (channel : Channel) (hertz : α)
  | setting (key value : String)
  deriving Repr, DecidableEq

/-- The driver's name for the call that carries out a command. -/
def Command.operation {α : Type} : Command α → String
  | .frequency .. => "set_frequency"
  | .gain .. => "set_gain"
  | .antenna .. => "set_antenna"
  | .dcOffset .. => "set_dc_offset"
  | .iqBalance .. => "set_iq_balance"
  | .dcOffsetMode .. => "set_dc_offset_mode"
  | .masterClockRate _ => "set_master_clock_rate"
  | .sampleRate .. => "set_sample_rate"
  | .setting .. => "write_setting"

/-- The command that applies a correction of either kind. -/
def Command.correction {α : Type} (kind : CorrectionKind) (direction : Direction)
    (channel : Channel) (value : Phasor α) : Command α :=
  match kind with
  | .iqBalance => .iqBalance direction channel value
  | .dcOffset => .dcOffset direction channel value

/-- What a successful read brings. -/
structure Delivery (α : Type) where
  /-- Samples per buffer that the device reports. It may exceed the room given. -/
  count : Nat
  /-- What it wrote at the start of each buffer. -/
  buffers : List (Array (Phasor α))
  deriving Repr

namespace Delivery

variable {α : Type}

/-- A buffer after a delivery wrote at its start; the rest stays. -/
def overwrite (written buffer : Array (Phasor α)) : Array (Phasor α) :=
  written.extract 0 buffer.size ++ buffer.extract written.size buffer.size

/-- The buffers after the delivery; one that it has nothing for stays. -/
def fill (delivery : Delivery α) (buffers : List (Array (Phasor α))) : List (Array (Phasor α)) :=
  buffers.zipIdx.map fun (buffer, index) => overwrite (delivery.buffers.getD index #[]) buffer

/-- The first samples of one buffer; a reported sample that was not written is zero. -/
def taken [Arithmetic α] (delivery : Delivery α) (index count : Nat) : Array (Phasor α) :=
  let written := (delivery.buffers.getD index #[]).extract 0 count
  written ++ Array.replicate (count - written.size) .zero

@[simp] theorem size_taken [Arithmetic α] (delivery : Delivery α) (index count : Nat) :
    (delivery.taken index count).size = count := by
  simp only [taken, Array.size_append, Array.size_extract, Array.size_replicate]
  omega

@[simp] theorem size_overwrite (written buffer : Array (Phasor α)) :
    (overwrite written buffer).size = buffer.size := by
  simp only [overwrite, Array.size_append, Array.size_extract]
  omega

/-- What is missing of a capture after a read with room for all that was missing, if the
capture goes on. -/
def missing (room : Nat) : Except StatusCode (Delivery α) → Option Nat
  | .ok delivery => some (room - delivery.count)
  | .error status => if status.isTimeout then some room else none

theorem missing_le {room rest : Nat} {result : Except StatusCode (Delivery α)}
    (goesOn : missing room result = some rest) : rest ≤ room := by
  cases result with
  | ok delivery =>
      cases goesOn
      exact Nat.sub_le ..
  | error status =>
      simp only [missing] at goesOn
      split at goesOn
      · cases goesOn
        exact Nat.le_refl _
      · cases goesOn

end Delivery

/-- A transceiver whose state is `σ`, whose stream handles are `η` and whose scalars
are `α`. -/
structure Transceiver (σ η α : Type) where
  description : σ → String
  command : Command α → Action σ DeviceError Unit
  openStream : List Channel → Action σ DeviceError η
  activate : η → Nat → Action σ DeviceError Unit
  /-- Read into one buffer per channel with the given room each, waiting at most as
  long as given. -/
  read : η → List Nat → Duration → Action σ StatusCode (Delivery α)
  closeStream : η → Action σ DeviceError Unit

/-- A transceiver with the surroundings of a capture and of a search. Between two looks the
clock may stand still or fall back, and a read may bring nothing or time out, but not without
end: a capture that goes on for ever has no result. Nothing else is assumed of them. -/
structure Rig (σ η α : Type) extends Transceiver σ η α where
  /-- Read the clock, in nanoseconds. -/
  now : σ → Nat × σ
  stopRequested : σ → Bool
  /-- Take note of a trial whose levels have been offered. -/
  note : Trial α → σ → σ := fun _ world => world
  /-- How many more reads of a stream there may be, when so many samples are missing of a
  capture whose deadline is the given instant. No call depends on it. -/
  patience : η → Nat → Nat → σ → Nat
  /-- A read before the deadline uses up patience, whatever it brings. -/
  patience_lt (stream : η) (room instant : Nat) (wait : Duration) (world : σ) (rest : Nat) :
    0 < room → (now world).1 < instant →
      Delivery.missing room (read stream [room, room] wait (now world).2).1 = some rest →
        patience stream rest instant (read stream [room, room] wait (now world).2).2 <
          patience stream room instant world

/-- The same of a read that was made after a look at the clock. -/
theorem Rig.patience_lt_of_read {σ η α : Type} {rig : Rig σ η α} {stream : η}
    {room instant reading rest : Nat} {wait : Duration} {world before after : σ}
    {result : Except StatusCode (Delivery α)} (positive : 0 < room)
    (looked : rig.now world = (reading, before)) (early : reading < instant)
    (outcome : rig.read stream [room, room] wait before = (result, after))
    (goesOn : Delivery.missing room result = some rest) :
    rig.patience stream rest instant after < rig.patience stream room instant world := by
  have less := rig.patience_lt stream room instant wait world rest positive
  rw [looked, outcome] at less
  exact less early goesOn

/-- A device state with a clock and a stop request beside it. -/
structure Hosted (σ : Type) where
  device : σ
  /-- Nanoseconds since the start. -/
  clock : Nat
  stopRequested : Bool

namespace Hosted

variable {σ ε β : Type}

/-- A device whose clock stands at the start, with no stop requested. -/
def start (device : σ) : Hosted σ := ⟨device, 0, false⟩

/-- An action on the device, which takes no time. -/
@[inline] def onDevice (action : Action σ ε β) : Action (Hosted σ) ε β :=
  Action.onPart Hosted.device (fun device world => { world with device }) action

/-- How long a look at the clock takes, in nanoseconds. -/
def glance : Nat := 1

/-- The least time that a read takes when it brings nothing, in nanoseconds. -/
def idle : Nat := 10000

/-- How long a read took: no time when it brought samples, a moment when it brought
none, and as long as it might wait when it failed. -/
def readingTime {α : Type} (wait : Duration) : Except StatusCode (Delivery α) → Nat
  | .ok delivery => if delivery.count = 0 then idle else 0
  | .error _ => max idle wait.nanoseconds

/-- A read brings samples or takes time. -/
theorem missing_lt_add_readingTime {α : Type} {room rest : Nat} (wait : Duration)
    {result : Except StatusCode (Delivery α)} (positive : 0 < room)
    (goesOn : Delivery.missing room result = some rest) :
    rest < room + readingTime wait result := by
  have most := Delivery.missing_le goesOn
  have moment : 0 < idle := by decide
  cases result with
  | ok delivery =>
      cases goesOn
      simp only [readingTime]
      split <;> omega
  | error status =>
      simp only [readingTime]
      omega

end Hosted

/-- A transceiver put beside a clock. Time passes with every look at the clock, unless a
glance takes none, and while a read brings nothing. The device itself may request a stop,
and so may the host. -/
def Rig.ofDevice {σ η α : Type} (device : Transceiver σ η α) (raisesStop : σ → Bool)
    (glance : Nat := Hosted.glance) : Rig (Hosted σ) η α where
  description world := device.description world.device
  command command := Hosted.onDevice (device.command command)
  openStream channels := Hosted.onDevice (device.openStream channels)
  activate stream count := Hosted.onDevice (device.activate stream count)
  read stream rooms wait := fun world =>
    match device.read stream rooms wait world.device with
    | (result, after) =>
      (result, { world with
        device := after
        clock := world.clock + Hosted.readingTime wait result })
  closeStream stream := Hosted.onDevice (device.closeStream stream)
  now world := (world.clock, { world with clock := world.clock + glance })
  stopRequested world := world.stopRequested || raisesStop world.device
  patience _ room instant world := room + (instant - world.clock)
  patience_lt stream room instant wait world rest positive early goesOn := by
    rcases outcome : device.read stream [room, room] wait world.device with ⟨result, after⟩
    simp only [outcome] at early goesOn ⊢
    have most : rest ≤ room := Delivery.missing_le goesOn
    have passes := Hosted.missing_lt_add_readingTime wait positive goesOn
    omega

end LoopbackCalibration
