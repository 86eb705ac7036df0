import LoopbackCalibration.Device.Acquisition
import LoopbackCalibration.Simulator

/-! # Test desks

On a desk stands a simulated transceiver with its clock. Its streams are numbered in
the order in which they were opened, and a number stays with its stream. A call may
also name a number that no stream has; it then concerns a stream of no channels.
-/

namespace LoopbackCalibration

/-- The device on a desk. -/
abbrev Desk.Device : Type := Simulator Noise.Keystream Float

/-- A simulated transceiver with the streams opened on it. -/
structure Desk where
  host : Hosted Desk.Device
  /-- The channels of each stream, in the order of opening. -/
  streams : Array (List Channel)

namespace Desk

variable {ε β : Type}

/-- A desk with no stream opened yet. -/
def start (device : Device) : Desk := ⟨.start device, #[]⟩

/-- The device as it stands. -/
def device (desk : Desk) : Device := desk.host.device

/-- The device beside a clock; nothing but the host requests a stop. -/
def rig : Rig (Hosted Device) (List Channel) Float :=
  .ofDevice Simulator.transceiver fun _ => false

/-- The stream that was opened under a number; an unknown number has no channels. -/
def stream (desk : Desk) (number : Nat) : List Channel := desk.streams.getD number []

/-- The desk after a change to its device. -/
def adjust (change : Device → Device) (desk : Desk) : Desk :=
  { desk with host := { desk.host with device := change desk.host.device } }

/-- A call of the rig, made on the desk. -/
def call (action : Action (Hosted Device) ε β) : Action Desk ε β :=
  Action.onPart Desk.host (fun host desk => { desk with host }) action

/-- A call that concerns a numbered stream. -/
def onStream (number : Nat) (action : List Channel → Action (Hosted Device) ε β) :
    Action Desk ε β :=
  fun desk => call (action (desk.stream number)) desk

/-- Give the device a command. -/
def command (command : Command Float) : Action Desk DeviceError Unit :=
  call (rig.command command)

/-- Open a stream and give the number that it gets. -/
def openStream (channels : List Channel) : Action Desk DeviceError Nat :=
  fun desk =>
    match call (rig.openStream channels) desk with
    | (.error cause, desk) => (.error cause, desk)
    | (.ok stream, desk) =>
      (.ok desk.streams.size, { desk with streams := desk.streams.push stream })

/-- Start a burst on a numbered stream. -/
def activate (number count : Nat) : Action Desk DeviceError Unit :=
  onStream number fun stream => rig.activate stream count

/-- Read from a numbered stream. -/
def read (number : Nat) (rooms : List Nat) (wait : Duration) :
    Action Desk StatusCode (Delivery Float) :=
  onStream number fun stream => rig.read stream rooms wait

/-- Capture from a numbered stream. -/
def acquire (number count : Nat) (options : AcquisitionOptions) :
    Action Desk (Halt AcquisitionError) (SampleBlock Float) :=
  onStream number fun stream => Acquisition.acquire rig stream count options

/-- Close a numbered stream; its number is not given again. -/
def closeStream (number : Nat) : Action Desk DeviceError Unit := onStream number rig.closeStream

end Desk

end LoopbackCalibration
