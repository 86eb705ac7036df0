import LoopbackCalibration.Calibration.Config
import LoopbackCalibration.Calibration.Outcome
import LoopbackCalibration.Spectrum

/-! # Spectra of a calibration

A finished calibration has eight spectra: of both channels of each of its four captures.
Each is labelled with what it shows, and carries markers at the frequencies where the
tones, their images and their leakage lie.
-/

namespace LoopbackCalibration

/-- What a spectrum shows. -/
structure SpectrumLabel where
  direction : Direction
  initial : Bool
  channel : Channel
  deriving Repr, DecidableEq

namespace SpectrumLabel

/-- Every label, in the order of the columns of a table. -/
def all : List SpectrumLabel :=
  Direction.all.flatMap fun direction =>
    [true, false].flatMap fun initial =>
      Channel.all.map fun channel => ⟨direction, initial, channel⟩

/-- The name of the capture that a spectrum shows. -/
def capture (label : SpectrumLabel) : String :=
  label.direction.label.toLower ++ if label.initial then "_initial" else "_final"

/-- The name of a spectrum: its capture and its channel. -/
def name (label : SpectrumLabel) : String :=
  label.capture ++ "_" ++ label.channel.letter.toLower

/-- The heading of a spectrum. -/
def title (label : SpectrumLabel) : String :=
  label.direction.label ++ " " ++ label.channel.label ++
    if label.initial then " Initial" else " Corrected"

/-- The capture that a spectrum is of. -/
def block {α : Type} (label : SpectrumLabel) (captures : StageCaptures α) : SampleBlock α :=
  match label.direction, label.initial with
  | .rx, true => captures.rxInitial
  | .rx, false => captures.rxFinal
  | .tx, true => captures.txInitial
  | .tx, false => captures.txFinal

end SpectrumLabel

/-- A spectrum of a calibration. -/
structure CaptureSpectrum (α : Type) where
  label : SpectrumLabel
  /-- The level of each bin, in rising frequency. -/
  levels : Array α

/-- Why a spectrum could not be taken. -/
structure SpectrumFailure where
  label : SpectrumLabel
  fault : Spectrum.Fault

/-- What the failure is reported as. -/
def SpectrumFailure.message (failure : SpectrumFailure) : String :=
  s!"{failure.label.capture} {failure.label.channel.label}: {failure.fault.message}"

/-- A frequency of interest in a spectrum. -/
structure Marker (α : Type) where
  label : String
  /-- The frequency in hertz. -/
  frequency : α
  reading : Spectrum.Reading α

namespace CaptureSpectrum

variable {α : Type} [Scalar α]

/-- The spectrum of one channel of a capture. -/
def ofCapture (config : Config α) (captures : StageCaptures α) (label : SpectrumLabel) :
    Except SpectrumFailure (CaptureSpectrum α) :=
  match Spectrum.levels ((label.block captures).samples label.channel) config.binsPerFft with
  | .ok levels => .ok ⟨label, levels⟩
  | .error fault => .error ⟨label, fault⟩

/-- The spectra behind labels, up to the first that cannot be taken. -/
def ofCaptures (config : Config α) (captures : StageCaptures α) :
    List SpectrumLabel → Except SpectrumFailure (List (CaptureSpectrum α))
  | [] => .ok []
  | label :: rest => do
    let spectrum ← ofCapture config captures label
    let others ← ofCaptures config captures rest
    return spectrum :: others

/-- The spectra of all captures, or the failure of the first that has none. -/
def all (config : Config α) (captures : StageCaptures α) :
    Except SpectrumFailure (List (CaptureSpectrum α)) :=
  ofCaptures config captures SpectrumLabel.all

/-- What lies where in a spectrum of a path. -/
def points (config : Config α) (direction : Direction) (channel : Channel) :
    List (String × α) :=
  let delta := config.txDelta
  let cordic := config.txCordic.get
  match direction with
  | .rx => [("Tx tone", delta), ("Rx imbal", -delta)]
  | .tx =>
    [("Tx tone", delta + cordic channel), ("Tx dc", delta), ("Tx imbal", delta - cordic channel),
      (channel.other.label ++ " leak", delta + cordic channel.other)]

/-- The levels of a spectrum at its points of interest. -/
def markers (config : Config α) (spectrum : CaptureSpectrum α) : List (Marker α) :=
  (points config spectrum.label.direction spectrum.label.channel).map fun (label, frequency) =>
    ⟨label, frequency, Spectrum.markerLevel spectrum.levels frequency config.sampleRate⟩

end CaptureSpectrum

end LoopbackCalibration
