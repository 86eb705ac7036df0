import LoopbackCalibration.Calibration.Config
import LoopbackCalibration.Decimal.Reader

/-! # Settings by name

Every setting of a calibration has a name under which a settings file may give it. The
list `Config.settings` has them in a fixed order. Depths are given one by one and time
limits in milliseconds.
-/

namespace LoopbackCalibration

/-- How a named setting is read off and changed, by the form of its value. -/
inductive Setting (α : Type) where
  | real (get : Config α → α) (set : Config α → α → Config α)
  | pair (get : Config α → PerChannel α) (set : Config α → PerChannel α → Config α)
  | count (limit : Nat) (get : Config α → Nat) (set : Config α → Nat → Config α)
  | text (get : Config α → String) (set : Config α → String → Config α)

namespace Config

variable {α : Type}

/-- Every setting of a calibration with its name. -/
def settings : List (String × Setting α) := [
  ("clock_rate_hz", .real clockRate fun config clockRate => { config with clockRate }),
  ("sample_rate_hz", .real sampleRate fun config sampleRate => { config with sampleRate }),
  ("rx_antenna", .text rxAntenna fun config rxAntenna => { config with rxAntenna }),
  ("tx_antenna", .text txAntenna fun config txAntenna => { config with txAntenna }),
  ("rx_lb_lna_gain_db", .real rxLbLnaGain fun config rxLbLnaGain => { config with rxLbLnaGain }),
  ("rx_pga_gain_db", .real rxPgaGain fun config rxPgaGain => { config with rxPgaGain }),
  ("rx_tia_gain_db", .real rxTiaGain fun config rxTiaGain => { config with rxTiaGain }),
  ("rx_lna_gain_db", .real rxLnaGain fun config rxLnaGain => { config with rxLnaGain }),
  ("tx_pad_gain_db", .real txPadGain fun config txPadGain => { config with txPadGain }),
  ("tx_lb_pad_gain_db", .real txLbPadGain fun config txLbPadGain => { config with txLbPadGain }),
  ("tx_freq_delta_hz", .real txDelta fun config txDelta => { config with txDelta }),
  ("tx_cordic_freq_hz", .pair txCordic fun config txCordic => { config with txCordic }),
  ("search_depth_min", .count Decimal.limit32 (·.searchDepths.first) fun config first =>
    { config with searchDepths := { config.searchDepths with first } }),
  ("search_depth_max", .count Decimal.limit32 (·.searchDepths.last) fun config last =>
    { config with searchDepths := { config.searchDepths with last } }),
  ("steps_per_iter", .count Decimal.limit64 stepsPerIter fun config stepsPerIter =>
    { config with stepsPerIter }),
  ("samples_per_capture", .count Decimal.limit64 samplesPerCapture
    fun config samplesPerCapture => { config with samplesPerCapture }),
  ("bins_per_fft", .count Decimal.limit64 binsPerFft fun config binsPerFft =>
    { config with binsPerFft }),
  ("rx_target_level_dbfs", .real rxTargetLevel fun config rxTargetLevel =>
    { config with rxTargetLevel }),
  ("max_rx_pga_gain_db", .real maxRxPgaGain fun config maxRxPgaGain =>
    { config with maxRxPgaGain }),
  ("acquisition_timeout_ms", .count Decimal.limit64
    (·.acquisitionTimeout.nanoseconds / 1000000) fun config milliseconds =>
      { config with acquisitionTimeout := .ofMilliseconds milliseconds }),
  ("read_timeout_ms", .count Decimal.limit64 (·.readTimeout.nanoseconds / 1000000)
    fun config milliseconds => { config with readTimeout := .ofMilliseconds milliseconds })]

end Config

end LoopbackCalibration
