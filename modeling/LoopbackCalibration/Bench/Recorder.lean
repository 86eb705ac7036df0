import LoopbackCalibration.Device.Transceiver

/-! # Recorded transceivers

A recorder stands in front of a transceiver. It writes down every call but the
reads, counts the reads that succeed, and may refuse one call: the `n`-th of a
given name. A refused call does not reach the device, except that a refused close
still closes the stream.
-/

namespace LoopbackCalibration

/-- A call that a recorder writes down. -/
inductive Call (α : Type) where
  | command (issued : Command α)
  | openStream (channels : List Channel)
  | activate (count : Nat)
  | closeStream
  deriving Repr, DecidableEq

/-- The driver's name for a call. -/
def Call.operation {α : Type} : Call α → String
  | .command issued => issued.operation
  | .openStream _ => "setup_rx_stream"
  | .activate _ => "activate_burst"
  | .closeStream => "close_stream"

/-- The error of a call that is refused. -/
def Call.refusal {α : Type} (call : Call α) : DeviceError :=
  match call with
  | .activate _ | .closeStream => .stream s!"{call.operation} refused"
  | _ => .configuration call.operation "refused"

/-- Which call is refused. -/
structure Refusal where
  operation : String
  /-- Which call of that name it is, counted from one. -/
  occurrence : Nat
  deriving Repr, DecidableEq

/-- A device with the record of what was done to it. -/
structure Recorded (σ α : Type) where
  device : σ
  /-- The calls, first to last. -/
  calls : Array (Call α)
  reads : Nat

namespace Recorded

variable {σ η α β : Type}

/-- A device before its first call. -/
def start (device : σ) : Recorded σ α := ⟨device, #[], 0⟩

/-- How many recorded calls were of an operation. -/
def occurrences (recorded : Recorded σ α) (operation : String) : Nat :=
  recorded.calls.foldl
    (fun count call => if call.operation = operation then count + 1 else count) 0

/-- Whether the call made last is the one refused. -/
def refuses (refusal : Option Refusal) (recorded : Recorded σ α) (call : Call α) : Bool :=
  match refusal with
  | none => false
  | some refusal =>
    refusal.operation == call.operation &&
      refusal.occurrence == recorded.occurrences refusal.operation

/-- Write a call down, and make it unless it is refused. -/
def make (refusal : Option Refusal) (call : Call α) (action : Action σ DeviceError β) :
    Action (Recorded σ α) DeviceError β :=
  fun recorded =>
    let recorded := { recorded with calls := recorded.calls.push call }
    if recorded.refuses refusal call then
      (.error call.refusal, recorded)
    else
      match action recorded.device with
      | (result, device) => (result, { recorded with device })

/-- Write a close down and make it. When it is refused, its outcome is not told. -/
def close (refusal : Option Refusal) (action : Action σ DeviceError Unit) :
    Action (Recorded σ α) DeviceError Unit :=
  fun recorded =>
    let recorded := { recorded with calls := recorded.calls.push .closeStream }
    match action recorded.device with
    | (result, device) =>
      let after := { recorded with device }
      if recorded.refuses refusal .closeStream then
        (.error (Call.closeStream : Call α).refusal, after)
      else
        (result, after)

/-- Make a read, which is counted only if it succeeds. -/
def read (action : Action σ StatusCode (Delivery α)) :
    Action (Recorded σ α) StatusCode (Delivery α) :=
  fun recorded =>
    match action recorded.device with
    | (.ok delivery, device) =>
      (.ok delivery, { recorded with device, reads := recorded.reads + 1 })
    | (.error status, device) => (.error status, { recorded with device })

/-- Whether a number of reads, which is not zero, has succeeded. -/
def hasRead (limit : Option Nat) (recorded : Recorded σ α) : Bool :=
  limit.any fun reads => decide (0 < reads ∧ reads ≤ recorded.reads)

/-- The transceiver with its calls recorded, one of which may be refused. -/
def transceiver (refusal : Option Refusal) (device : Transceiver σ η α) :
    Transceiver (Recorded σ α) η α where
  description recorded := device.description recorded.device
  command command := make refusal (.command command) (device.command command)
  openStream channels := make refusal (.openStream channels) (device.openStream channels)
  activate stream count := make refusal (.activate count) (device.activate stream count)
  read stream rooms wait := read (device.read stream rooms wait)
  closeStream stream := close refusal (device.closeStream stream)

end Recorded

end LoopbackCalibration
