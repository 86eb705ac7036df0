import LoopbackCalibration.Action
import LoopbackCalibration.Bench.Desk
import LoopbackCalibration.Bench.Pattern
import LoopbackCalibration.Bench.Recorder
import LoopbackCalibration.Bench.Script
import LoopbackCalibration.Bench.TestSignal
import LoopbackCalibration.Calibration.Commands
import LoopbackCalibration.Calibration.Config
import LoopbackCalibration.Calibration.Error
import LoopbackCalibration.Calibration.Outcome
import LoopbackCalibration.Calibration.Run
import LoopbackCalibration.Calibration.Setting
import LoopbackCalibration.Calibration.Stage
import LoopbackCalibration.Channel
import LoopbackCalibration.Correction
import LoopbackCalibration.Decimal
import LoopbackCalibration.Decimal.Reader
import LoopbackCalibration.Device.Acquisition
import LoopbackCalibration.Device.Arguments
import LoopbackCalibration.Device.Error
import LoopbackCalibration.Device.Session
import LoopbackCalibration.Device.Status
import LoopbackCalibration.Device.Transceiver
import LoopbackCalibration.Duration
import LoopbackCalibration.Fourier
import LoopbackCalibration.Main
import LoopbackCalibration.Noise.Keystream
import LoopbackCalibration.Noise.Normal
import LoopbackCalibration.Phasor
import LoopbackCalibration.Program.CommandLine
import LoopbackCalibration.Program.FileTree
import LoopbackCalibration.Program.Path
import LoopbackCalibration.Program.Run
import LoopbackCalibration.Proofs.Acquisition.Chunks
import LoopbackCalibration.Proofs.Acquisition.Conduct
import LoopbackCalibration.Proofs.Acquisition.Course
import LoopbackCalibration.Proofs.Acquisition.Replay
import LoopbackCalibration.Proofs.Action.Agree
import LoopbackCalibration.Proofs.Action.CutShort
import LoopbackCalibration.Proofs.Action.Ensures
import LoopbackCalibration.Proofs.Action.Shadow
import LoopbackCalibration.Proofs.Calibration.Agree
import LoopbackCalibration.Proofs.Calibration.Cancellation
import LoopbackCalibration.Proofs.Calibration.Captured
import LoopbackCalibration.Proofs.Calibration.Completion
import LoopbackCalibration.Proofs.Calibration.Conduct
import LoopbackCalibration.Proofs.Calibration.Convergence
import LoopbackCalibration.Proofs.Calibration.Course
import LoopbackCalibration.Proofs.Calibration.CutShort
import LoopbackCalibration.Proofs.Calibration.Emission
import LoopbackCalibration.Proofs.Calibration.FirstFailure
import LoopbackCalibration.Proofs.Calibration.Gauge
import LoopbackCalibration.Proofs.Calibration.Invariant
import LoopbackCalibration.Proofs.Calibration.Journal
import LoopbackCalibration.Proofs.Calibration.Keeping
import LoopbackCalibration.Proofs.Calibration.Ledger
import LoopbackCalibration.Proofs.Calibration.Measured
import LoopbackCalibration.Proofs.Calibration.Passage
import LoopbackCalibration.Proofs.Calibration.Provenance
import LoopbackCalibration.Proofs.Calibration.Range
import LoopbackCalibration.Proofs.Calibration.Reach
import LoopbackCalibration.Proofs.Calibration.ReceiveGain
import LoopbackCalibration.Proofs.Calibration.Reference
import LoopbackCalibration.Proofs.Calibration.Rules
import LoopbackCalibration.Proofs.Calibration.Settled
import LoopbackCalibration.Proofs.Calibration.Shadow
import LoopbackCalibration.Proofs.Calibration.StageTrail
import LoopbackCalibration.Proofs.Calibration.Stages
import LoopbackCalibration.Proofs.Calibration.Steps
import LoopbackCalibration.Proofs.Calibration.Tracking
import LoopbackCalibration.Proofs.Calibration.Trials
import LoopbackCalibration.Proofs.Calibration.Work
import LoopbackCalibration.Proofs.Calibration.Writes
import LoopbackCalibration.Proofs.Calibration.Yield
import LoopbackCalibration.Proofs.Decimal.Figures
import LoopbackCalibration.Proofs.Device.Overrides
import LoopbackCalibration.Proofs.Device.RoundTrip
import LoopbackCalibration.Proofs.Measurement.Aligned
import LoopbackCalibration.Proofs.Measurement.Broken
import LoopbackCalibration.Proofs.Report.Markers
import LoopbackCalibration.Proofs.Report.Spectra
import LoopbackCalibration.Proofs.Report.Table
import LoopbackCalibration.Proofs.Scalar.Binary64
import LoopbackCalibration.Proofs.Scalar.Exact
import LoopbackCalibration.Proofs.Scalar.Extended
import LoopbackCalibration.Proofs.Scalar.Order
import LoopbackCalibration.Proofs.Scalar.Places
import LoopbackCalibration.Proofs.Scalar.Polar
import LoopbackCalibration.Proofs.Scalar.Rational
import LoopbackCalibration.Proofs.Scalar.Real
import LoopbackCalibration.Proofs.Scalar.Rounding
import LoopbackCalibration.Proofs.Scalar.Special
import LoopbackCalibration.Proofs.Scalar.Steps
import LoopbackCalibration.Proofs.Scalar.Sums
import LoopbackCalibration.Proofs.Scalar.Zeros
import LoopbackCalibration.Proofs.Search.Convergence
import LoopbackCalibration.Proofs.Search.Enumeration
import LoopbackCalibration.Proofs.Search.Interleaving
import LoopbackCalibration.Proofs.Search.Offers
import LoopbackCalibration.Proofs.Search.Reach
import LoopbackCalibration.Proofs.Search.Reference
import LoopbackCalibration.Proofs.Session.Closing
import LoopbackCalibration.Proofs.Settings.Layers
import LoopbackCalibration.Proofs.Simulator.Accounts
import LoopbackCalibration.Proofs.Simulator.Chunking
import LoopbackCalibration.Proofs.Simulator.Front
import LoopbackCalibration.Proofs.Simulator.Operations
import LoopbackCalibration.Proofs.Simulator.Optimum
import LoopbackCalibration.Proofs.Simulator.Residue
import LoopbackCalibration.Proofs.Simulator.Settled
import LoopbackCalibration.Proofs.Simulator.TimeBase
import LoopbackCalibration.Proofs.Simulator.Work
import LoopbackCalibration.Proofs.Spectrum.Axis
import LoopbackCalibration.Proofs.Spectrum.Bins
import LoopbackCalibration.Proofs.Spectrum.Frames
import LoopbackCalibration.Proofs.Spectrum.Levels
import LoopbackCalibration.Proofs.Spectrum.Normalised
import LoopbackCalibration.Proofs.Spectrum.Peak
import LoopbackCalibration.Proofs.Spectrum.Window
import LoopbackCalibration.Proofs.Text.Pieces
import LoopbackCalibration.Report.Json
import LoopbackCalibration.Report.Spectra
import LoopbackCalibration.Report.Written
import LoopbackCalibration.Samples
import LoopbackCalibration.Scalar
import LoopbackCalibration.Scalar.Binary64
import LoopbackCalibration.Search.Descent
import LoopbackCalibration.Search.Grid
import LoopbackCalibration.Search.Tracker
import LoopbackCalibration.Search.Trial
import LoopbackCalibration.Settings.Basic
import LoopbackCalibration.Settings.Error
import LoopbackCalibration.Settings.File
import LoopbackCalibration.Settings.LogLevel
import LoopbackCalibration.Simulator
import LoopbackCalibration.Simulator.Model
import LoopbackCalibration.Simulator.Signal
import LoopbackCalibration.Spectrum
import LoopbackCalibration.Text.Blank
import LoopbackCalibration.Text.Reader
import LoopbackCalibration.Toml.Document
import LoopbackCalibration.Toml.Lexical
import LoopbackCalibration.Toml.Number
import LoopbackCalibration.Toml.Value
import LoopbackCalibration.Tone
import LoopbackCalibration.Window
