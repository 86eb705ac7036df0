import LoopbackCalibration.Device.Status
import LoopbackCalibration.Duration

/-! # Device and acquisition errors

An acquisition error always tells how many samples per channel were collected
before it, except when the burst could not be started at all.
-/

namespace LoopbackCalibration

/-- Why a device call failed. -/
inductive DeviceError where
  | configuration (operation message : String)
  | stream (message : String)
  | unsupported (what : String)
  deriving Repr, DecidableEq

namespace DeviceError

/-- What the error is reported as. -/
def message : DeviceError → String
  | .configuration operation message => s!"Device configuration failed in {operation}: {message}"
  | .stream message => s!"Stream error: {message}"
  | .unsupported what => s!"Unsupported: {what}"

/-- The name of the kind of error. -/
def kind : DeviceError → String
  | .configuration .. => "Configuration"
  | .stream _ => "Stream"
  | .unsupported _ => "Unsupported"

/-- The error of a call that sets something up. -/
def isConfiguration : DeviceError → Bool
  | .configuration .. => true
  | _ => false

end DeviceError

/-- Why a capture failed. -/
inductive AcquisitionError where
  /-- A read failed with a status other than a timeout. -/
  | readStatus (status : StatusCode) (collected : Nat)
  | timeout (collected requested : Nat) (limit : Duration)
  | cancelled (collected : Nat)
  | device (source : DeviceError)
  deriving Repr, DecidableEq

namespace AcquisitionError

/-- What the error is reported as. -/
def message : AcquisitionError → String
  | .readStatus status collected =>
    s!"Stream read failed with status {status.text} after {collected} samples"
  | .timeout collected requested limit =>
    s!"Acquisition timed out after {limit.text}: {collected} of {requested} samples"
  | .cancelled collected => s!"Acquisition cancelled after {collected} samples"
  | .device source => s!"Device error during acquisition: {source.message}"

/-- The name of the kind of error. -/
def kind : AcquisitionError → String
  | .readStatus .. => "ReadStatus"
  | .timeout .. => "Timeout"
  | .cancelled _ => "Cancelled"
  | .device _ => "Device"

/-- The capture ran into its deadline. -/
def isTimeout : AcquisitionError → Bool
  | .timeout .. => true
  | _ => false

/-- The capture was told to stop. -/
def isCancelled : AcquisitionError → Bool
  | .cancelled _ => true
  | _ => false

/-- A read failed, and not because it timed out. -/
def isReadStatus : AcquisitionError → Bool
  | .readStatus .. => true
  | _ => false

/-- The words of the device error that an acquisition error wraps. -/
def source? : AcquisitionError → Option String
  | .device source => some source.message
  | _ => none

end AcquisitionError

end LoopbackCalibration
