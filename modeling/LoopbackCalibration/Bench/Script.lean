import LoopbackCalibration.Device.Transceiver
import LoopbackCalibration.Scalar.Binary64

/-! # Scripted transceivers

A transceiver whose reads follow a script. A read that the script provides for
takes no time, unlike a look at the clock; once the script has ended, every read
waits as long as it may and times out. Calls of the stream are written down before
they are carried out, and opening, starting and closing may each be made to fail.
-/

namespace LoopbackCalibration

namespace Script

/-- What one read does. -/
inductive Step where
  | status (status : StatusCode)
  | chunk (count : Nat)
  | chunkThenStop (count : Nat)
  deriving Repr, DecidableEq

/-- A call that is written down. -/
inductive Event where
  | opened (channels : List Channel)
  | activated (stream count : Nat)
  /-- A read with the given room per buffer was answered by the script. -/
  | read (rooms : List Nat)
  | closed (stream : Nat)
  deriving Repr, DecidableEq

/-- Which calls fail, and how. -/
structure Failures where
  onOpen : Option DeviceError := none
  onActivate : Option DeviceError := none
  onClose : Option DeviceError := none
  deriving Repr, DecidableEq

end Script

/-- A transceiver that follows a script. -/
structure Scripted where
  script : List Script.Step
  cursor : Nat
  /-- Nanoseconds spent waiting and with looks at the clock. -/
  clock : Nat
  stopRequested : Bool
  /-- The calls written down, last to first. -/
  events : List Script.Event
  deriving Repr

namespace Scripted

open Script

/-- The handle of every stream that is opened. -/
def handle : Nat := 7

/-- A device before its first call. -/
def start (script : List Step) : Scripted := ⟨script, 0, 0, false, []⟩

/-- The calls written down, first to last. There is no answer once more samples have
been reported than an unsigned 64-bit word counts. -/
def log? (device : Scripted) : Option (List Event) :=
  if device.cursor < 2 ^ (64 : Nat) then some device.events.reverse else none

variable {α β : Type} [Arithmetic α]

/-- The samples a chunk writes on a channel, up to the room there. They tell apart
both channels and the positions, as far as the digits of a stored sample do. -/
def written (cursor count : Nat) (channel : Channel) : Array (Phasor α) :=
  Array.ofFn fun index : Fin count =>
    let position : α := Arithmetic.ofCount (roundCount 24 (cursor + index))
    match channel with
    | .a => ⟨Arithmetic.stored (position + 1), Arithmetic.two⟩
    | .b => ⟨-position, Arithmetic.stored (Arithmetic.half * position)⟩

/-- What a chunk of so many samples brings into buffers with the given room. -/
def delivery (cursor count : Nat) (rooms : List Nat) : Delivery α :=
  ⟨count, List.zipWith (fun room channel => written cursor (min count room) channel)
    rooms Channel.all⟩

/-- Take the next step of the script. After the last one every read waits and times out. -/
def read (rooms : List Nat) (wait : Duration) : Action Scripted StatusCode (Delivery α) :=
  fun device =>
    match device.script with
    | [] =>
      (.error .timeout, { device with clock := device.clock + max Hosted.idle wait.nanoseconds })
    | step :: script =>
      let device := { device with script, events := .read rooms :: device.events }
      match step with
      | .status status => (.error status, device)
      | .chunk count =>
        (.ok (delivery device.cursor count rooms),
          { device with cursor := device.cursor + count })
      | .chunkThenStop count =>
        (.ok (delivery device.cursor count rooms),
          { device with cursor := device.cursor + count, stopRequested := true })

/-- A read does not set the clock back. -/
theorem clock_le_read (rooms : List Nat) (wait : Duration) (device : Scripted) :
    device.clock ≤ (read (α := α) rooms wait device).2.clock := by
  unfold read
  split
  · exact Nat.le_add_right _ _
  · split <;> exact Nat.le_refl _

/-- Write a call down, and then give a value or fail. -/
def respond (event : Event) (failure : Option DeviceError) (value : β) :
    Action Scripted DeviceError β :=
  fun device =>
    let device := { device with events := event :: device.events }
    match failure with
    | some cause => (.error cause, device)
    | none => (.ok value, device)

/-- The scripted transceiver as a rig, with its own clock and stop request. -/
def rig (failures : Failures) : Rig Scripted Nat α where
  description _ := "Scripted"
  command _ := Action.pure ()
  openStream channels := respond (.opened channels) failures.onOpen handle
  activate stream count := respond (.activated stream count) failures.onActivate ()
  read _ rooms wait := read rooms wait
  closeStream stream := respond (.closed stream) failures.onClose ()
  now device := (device.clock, { device with clock := device.clock + Hosted.glance })
  stopRequested device := device.stopRequested
  patience _ _ instant device := instant - device.clock
  patience_lt _ room _ wait device _ _ early _ := by
    have later := clock_le_read (α := α) [room, room] wait
      { device with clock := device.clock + Hosted.glance }
    exact Nat.sub_lt_sub_left early
      (Nat.lt_of_lt_of_le (Nat.lt_add_of_pos_right (by decide)) later)

end Scripted

end LoopbackCalibration
