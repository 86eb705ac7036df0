import LoopbackCalibration.Report.Json
import LoopbackCalibration.Report.Spectra

/-! # The written report

A report is two files. The table has a row for each bin with the level of every
spectrum. The summary has the corrections and the readings at the markers; there is
none when a marker lies beyond what a word can count.
-/

namespace LoopbackCalibration

namespace Report

/-- The file that holds the table. -/
def tableFile : String := "spectrum.csv"

/-- The file that holds the summary. -/
def summaryFile : String := "summary.json"

/-- One line of a table. -/
def record (fields : List String) : String := ",".intercalate fields ++ "\n"

/-- The line of a bin: its frequency, and its level in each spectrum. -/
def row (spectra : List (CaptureSpectrum Float)) (index : Nat) (frequency : Float) : String :=
  record (Decimal.plain frequency ::
    spectra.map fun spectrum => Decimal.fixed 3 (spectrum.levels.getD index 0))

/-- The table of the spectra. -/
def table (config : Config Float) (spectra : List (CaptureSpectrum Float)) : String :=
  let header := record ("frequency_hz" :: spectra.map fun spectrum => spectrum.label.name)
  let frequencies := (Spectrum.binFrequencies config.binsPerFft config.sampleRate).toList
  header ++ String.join (frequencies.zipIdx.map fun (frequency, index) =>
    row spectra index frequency)

/-- What a summary says of a correction on a channel. -/
def correction (result : CorrectionResult Float) (channel : Channel) : JsonValue :=
  let best := result.correction.get channel
  .object [
    ("re", .real best.re),
    ("im", .real best.im),
    ("level_dbfs", ((result.level.get channel).map JsonValue.real).getD .null),
    ("updates", .count (result.updates.get channel))]

/-- What a summary says of a channel. -/
def channelSummary (outcome : Outcome Float) (channel : Channel) : JsonValue :=
  .object [
    ("channel", .text channel.letter),
    ("rx_pga_gain_db", .real (outcome.rxPgaGain.get channel)),
    ("rx_iq", correction outcome.rxIq channel),
    ("tx_iq", correction outcome.txIq channel),
    ("tx_dc", correction outcome.txDc channel)]

/-- A marker, unless it is out of range. -/
def marker? (marker : Marker Float) : Option JsonValue := do
  let level ← match marker.reading with
    | .absent => some JsonValue.null
    | .found level => some (.real level)
    | .outOfRange => none
  return .object [
    ("label", .text marker.label),
    ("freq_hz", .real marker.frequency),
    ("level_dbfs", level)]

/-- A spectrum with its markers, unless one of these is out of range. -/
def spectrum? (config : Config Float) (spectrum : CaptureSpectrum Float) : Option JsonValue := do
  let markers ← (spectrum.markers config).mapM marker?
  return .object [
    ("name", .text spectrum.label.name),
    ("title", .text spectrum.label.title),
    ("markers", .array markers)]

/-- The summary, unless a marker is out of range. -/
def summary? (config : Config Float) (outcome : Outcome Float)
    (spectra : List (CaptureSpectrum Float)) : Option JsonValue := do
  let captures ← spectra.mapM (spectrum? config)
  return .object [
    ("freq_hz", .real outcome.frequency),
    ("elapsed_s", .real outcome.elapsed.seconds),
    ("candidates_evaluated", .count outcome.candidates),
    ("channels", .array (Channel.all.map (channelSummary outcome))),
    ("captures", .array captures)]

end Report

end LoopbackCalibration
