import LoopbackCalibration.Calibration.Stage
import LoopbackCalibration.Device.Error

/-! # Calibration errors

A failure of the device carries the stage it interrupted.
-/

namespace LoopbackCalibration

/-- Why a calibration was aborted. -/
inductive CalibrationError where
  | invalidConfig (reason : String)
  /-- A device call other than a capture failed. -/
  | configuration (stage : Stage) (source : DeviceError)
  | acquisition (stage : Stage) (source : AcquisitionError)
  deriving Repr, DecidableEq

namespace CalibrationError

/-- What the error is reported as. -/
def message : CalibrationError → String
  | .invalidConfig reason => s!"Invalid calibration config: {reason}"
  | .configuration stage source =>
    s!"Device configuration failed during {stage.name}: {source.message}"
  | .acquisition stage source => s!"Acquisition failed during {stage.name}: {source.message}"

/-- The name of the kind of error. -/
def kind : CalibrationError → String
  | .invalidConfig _ => "InvalidConfig"
  | .configuration .. => "Configuration"
  | .acquisition .. => "Acquisition"

/-- The stage that was interrupted. -/
def stage? : CalibrationError → Option Stage
  | .invalidConfig _ => none
  | .configuration stage _ => some stage
  | .acquisition stage _ => some stage

/-- The words of the error that this one wraps. -/
def source? : CalibrationError → Option String
  | .invalidConfig _ => none
  | .configuration _ source => some source.message
  | .acquisition _ source => some source.message

/-- The configuration was refused before the run. -/
def isInvalidConfig : CalibrationError → Bool
  | .invalidConfig _ => true
  | _ => false

/-- A call of the device failed outside of a capture. -/
def isConfiguration : CalibrationError → Bool
  | .configuration .. => true
  | _ => false

/-- A capture failed. -/
def isAcquisition : CalibrationError → Bool
  | .acquisition .. => true
  | _ => false

end CalibrationError

end LoopbackCalibration
