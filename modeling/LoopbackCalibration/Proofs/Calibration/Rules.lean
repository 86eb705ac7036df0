import Mathlib.Tactic.SplitIfs
import LoopbackCalibration.Calibration.Config

/-! # The rules of a configuration

The rules that a configuration is checked for, as what a valid configuration obeys
(`Config.isValid_iff_obeys`).
-/

namespace LoopbackCalibration

variable {α : Type} [Arithmetic α]

/-- What a valid configuration obeys. -/
structure Config.Obeys (config : Config α) : Prop where
  ascending : config.searchDepths.first ≤ config.searchDepths.last
  deep : minDepth ≤ config.searchDepths.first
  shallow : config.searchDepths.last ≤ maxDepth
  steps : 2 ≤ config.stepsPerIter
  samples : 0 < config.samplesPerCapture
  bins : 0 < config.binsPerFft
  even : config.binsPerFft % 2 = 0
  enough : config.binsPerFft ≤ config.samplesPerCapture
  sampleRate : 0 < config.sampleRate
  clockRate : 0 < config.clockRate
  acquisitionTimeout : config.acquisitionTimeout.isZero = false
  readTimeout : config.readTimeout.isZero = false

theorem Config.isValid_iff_obeys {config : Config α} : config.isValid ↔ config.Obeys := by
  rw [isValid, Option.isNone_iff_eq_none]
  constructor
  · intro faultless
    simp only [fault?] at faultless
    split_ifs at faultless with descending shallow deep few zero odd short rates timeouts
    obtain ⟨samples, bins⟩ := not_or.mp zero
    obtain ⟨sampleRate, clockRate⟩ := not_or.mp rates
    obtain ⟨acquisition, read⟩ := Bool.or_eq_false_iff.mp (Bool.eq_false_iff.mpr timeouts)
    exact ⟨by omega, by omega, by omega, by omega, by omega, by omega, by omega, by omega,
      Decidable.not_not.mp sampleRate, Decidable.not_not.mp clockRate, acquisition, read⟩
  · rintro ⟨ascending, deep, shallow, steps, samples, bins, even, enough, sampleRate, clockRate,
      acquisition, read⟩
    simp only [fault?]
    rw [if_neg (by omega), if_neg (by omega), if_neg (by omega), if_neg (by omega),
      if_neg (by omega), if_neg (by omega), if_neg (by omega),
      if_neg (not_or.mpr ⟨Decidable.not_not.mpr sampleRate, Decidable.not_not.mpr clockRate⟩),
      if_neg (by simp [acquisition, read])]

end LoopbackCalibration
