import LoopbackCalibration.Decimal
import LoopbackCalibration.Device.Acquisition
import LoopbackCalibration.Search.Grid

/-! # Calibration settings

Everything that can be set about a calibration, its defaults, and the rules that
the settings must obey before a search can run with them. `fault?` looks at the
rules in a fixed order and names the first one broken.
-/

namespace LoopbackCalibration

/-- The depths of a search, first to last. -/
structure DepthRange where
  first : Nat
  last : Nat
  deriving Repr, DecidableEq, Inhabited

namespace DepthRange

/-- How many depths there are. -/
def size (depths : DepthRange) : Nat := depths.last + 1 - depths.first

/-- The depths from the first to the last. -/
def toList (depths : DepthRange) : List Nat := List.range' depths.first depths.size

end DepthRange

/-- Settings of a calibration. -/
structure Config (α : Type) where
  /-- Master clock rate in hertz. -/
  clockRate : α
  /-- Sample rate of both directions in hertz. -/
  sampleRate : α
  rxAntenna : String
  txAntenna : String
  /-- Receive loopback low-noise amplifier gain in decibels. -/
  rxLbLnaGain : α
  /-- Receive programmable amplifier gain before the adjustment, in decibels. -/
  rxPgaGain : α
  /-- Receive transimpedance amplifier gain in decibels. -/
  rxTiaGain : α
  /-- Receive low-noise amplifier gain in decibels. -/
  rxLnaGain : α
  /-- Transmit amplifier driver gain in decibels. -/
  txPadGain : α
  /-- Transmit loopback amplifier driver gain in decibels. -/
  txLbPadGain : α
  /-- Offset of the transmit oscillator above the receive one, in hertz. -/
  txDelta : α
  /-- Transmit baseband frequency of each channel in hertz. -/
  txCordic : PerChannel α
  searchDepths : DepthRange
  stepsPerIter : Nat
  samplesPerCapture : Nat
  binsPerFft : Nat
  /-- Level that the gain adjustment aims at, in decibels. -/
  rxTargetLevel : α
  /-- Upper bound of the adjusted gain in decibels. -/
  maxRxPgaGain : α
  acquisitionTimeout : Duration
  readTimeout : Duration
  deriving Repr, DecidableEq

/-- A rule that settings break. -/
inductive ConfigFault (α : Type) where
  | descendingDepths (depths : DepthRange)
  | shallowDepth (depth : Nat)
  | deepDepth (depth : Nat)
  | fewSteps (steps : Nat)
  | zeroCount
  | oddBins (bins : Nat)
  | shortCapture (bins samples : Nat)
  | badRate (sample clock : α)
  | zeroTimeout (capture read : Duration)
  deriving Repr, DecidableEq

namespace Config

/-- The least depth that a search may start at. -/
def minDepth : Nat := 2

/-- The deepest last depth, where the half-width is the spacing of doubles at one. -/
def maxDepth : Nat := 52

variable {α : Type} [Arithmetic α]

/-- The configuration that is used unless another one is given. -/
def standard : Config α where
  clockRate := Arithmetic.ofCount 80000000
  sampleRate := Arithmetic.ofCount 10000000
  rxAntenna := "LB1"
  txAntenna := "BAND1"
  rxLbLnaGain := Arithmetic.ofCount 40
  rxPgaGain := 0
  rxTiaGain := 0
  rxLnaGain := 0
  txPadGain := -Arithmetic.ofCount 10
  txLbPadGain := 0
  txDelta := Arithmetic.ofCount 700000
  txCordic := ⟨Arithmetic.ofCount 1100000, Arithmetic.ofCount 1500000⟩
  searchDepths := ⟨2, 10⟩
  stepsPerIter := 3
  samplesPerCapture := 8192
  binsPerFft := 1024
  rxTargetLevel := -Arithmetic.ofCount 10
  maxRxPgaGain := Arithmetic.ofCount 19
  acquisitionTimeout := .ofSeconds 5
  readTimeout := .ofMilliseconds 100

instance : Inhabited (Config α) := ⟨standard⟩

/-- Receive gain elements in the order they are set. -/
def rxGainPlan (config : Config α) : List (GainStage × α) :=
  [(.pga, config.rxPgaGain), (.tia, config.rxTiaGain), (.lna, config.rxLnaGain),
    (.lbLna, config.rxLbLnaGain)]

/-- Transmit gain elements in the order they are set. -/
def txGainPlan (config : Config α) : List (GainStage × α) :=
  [(.pad, config.txPadGain), (.lbPad, config.txLbPadGain)]

/-- Where the receive image of the tone lies, from the centre of the spectrum. -/
def rxImage (config : Config α) : α := -config.txDelta

/-- Where the transmit image of each channel's tone lies. -/
def txImage (config : Config α) : PerChannel α :=
  config.txCordic.map fun cordic => config.txDelta - cordic

/-- The limits of every capture. -/
def acquisitionOptions (config : Config α) : AcquisitionOptions :=
  { timeout := config.acquisitionTimeout, readTimeout := config.readTimeout }

/-- The grid of one depth. -/
def grid (config : Config α) (depth : Nat) : Grid := ⟨depth, config.stepsPerIter⟩

/-- The first rule that the settings break. -/
def fault? (config : Config α) : Option (ConfigFault α) :=
  let depths := config.searchDepths
  if depths.last < depths.first then
    some (.descendingDepths depths)
  else if depths.first < minDepth then
    some (.shallowDepth depths.first)
  else if maxDepth < depths.last then
    some (.deepDepth depths.last)
  else if config.stepsPerIter < 2 then
    some (.fewSteps config.stepsPerIter)
  else if config.samplesPerCapture = 0 ∨ config.binsPerFft = 0 then
    some .zeroCount
  else if config.binsPerFft % 2 ≠ 0 then
    some (.oddBins config.binsPerFft)
  else if config.samplesPerCapture < config.binsPerFft then
    some (.shortCapture config.binsPerFft config.samplesPerCapture)
  else if ¬0 < config.sampleRate ∨ ¬0 < config.clockRate then
    some (.badRate config.sampleRate config.clockRate)
  else if config.acquisitionTimeout.isZero || config.readTimeout.isZero then
    some (.zeroTimeout config.acquisitionTimeout config.readTimeout)
  else
    none

/-- No value of the configuration is at fault. -/
def isValid (config : Config α) : Bool := config.fault?.isNone

end Config

/-- What the fault is reported as. -/
def ConfigFault.message {α : Type} [Numeral α] : ConfigFault α → String
  | .descendingDepths depths =>
    s!"search depths {depths.first}..={depths.last} are empty or descending"
  | .shallowDepth depth => s!"search depth must start at {Config.minDepth} or more, got {depth}"
  | .deepDepth depth => s!"search depth must end at {Config.maxDepth} or less, got {depth}"
  | .fewSteps steps => s!"steps_per_iter must be at least 2, got {steps}"
  | .zeroCount => "sample counts must be nonzero"
  | .oddBins bins => s!"bins_per_fft must be even, got {bins}"
  | .shortCapture bins samples => s!"bins_per_fft ({bins}) exceeds samples_per_capture ({samples})"
  | .badRate sample clock =>
    s!"rates must be positive (sample {Numeral.plain sample} Hz, " ++
      s!"clock {Numeral.plain clock} Hz)"
  | .zeroTimeout capture read =>
    s!"timeouts must be nonzero (capture {capture.text}, read {read.text})"

end LoopbackCalibration
