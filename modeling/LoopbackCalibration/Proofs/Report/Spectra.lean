import LoopbackCalibration.Proofs.Calibration.Captured
import LoopbackCalibration.Proofs.Calibration.Rules
import LoopbackCalibration.Proofs.Spectrum.Levels
import LoopbackCalibration.Report.Spectra

/-! # Every capture has its spectrum

A complete capture under valid settings fills a frame, and the transform takes frames of an even
size. So the captures of an outcome have all their spectra, with as many levels as the transform
has bins (`CaptureSpectrum.exists_all`).
-/

namespace LoopbackCalibration

variable {α : Type} [Scalar α]

theorem SpectrumLabel.mem_all (label : SpectrumLabel) : label ∈ all := by
  obtain ⟨direction, initial, channel⟩ := label
  cases direction <;> cases initial <;> cases channel <;> decide

omit [Scalar α] in
theorem StageCaptures.Known.block {known : SampleBlock α → Prop} {captures : StageCaptures α}
    (all : captures.Known known) (label : SpectrumLabel) : known (label.block captures) := by
  obtain ⟨direction, initial, channel⟩ := label
  cases direction <;> cases initial
  · exact all.rxFinal
  · exact all.rxInitial
  · exact all.txFinal
  · exact all.txInitial

namespace CaptureSpectrum

/-- The spectrum of a capture, with a level for each bin. -/
structure Shows (config : Config α) (captures : StageCaptures α) (label : SpectrumLabel)
    (spectrum : CaptureSpectrum α) : Prop where
  label_eq : spectrum.label = label
  levels_eq : Spectrum.levels ((label.block captures).samples label.channel) config.binsPerFft =
    .ok spectrum.levels
  size_eq : spectrum.levels.size = config.binsPerFft

variable {config : Config α} {captures : StageCaptures α}

theorem labels_eq {labels : List SpectrumLabel} {spectra : List (CaptureSpectrum α)}
    (shows : List.Forall₂ (Shows config captures) labels spectra) :
    spectra.map CaptureSpectrum.label = labels := by
  induction shows with
  | nil => rfl
  | cons first _ ih => rw [List.map_cons, ih, first.label_eq]

theorem size_of_mem {labels : List SpectrumLabel} {spectra : List (CaptureSpectrum α)}
    (shows : List.Forall₂ (Shows config captures) labels spectra) :
    ∀ spectrum ∈ spectra, spectrum.levels.size = config.binsPerFft := by
  induction shows with
  | nil => exact List.forall_mem_nil _
  | cons first _ ih => exact List.forall_mem_cons.mpr ⟨first.size_eq, ih⟩

theorem exists_ofCaptures {labels : List SpectrumLabel}
    (each : ∀ label ∈ labels, ∃ bins,
      Spectrum.levels ((label.block captures).samples label.channel) config.binsPerFft =
        .ok bins ∧ bins.size = config.binsPerFft) :
    ∃ spectra, ofCaptures config captures labels = .ok spectra ∧
      List.Forall₂ (Shows config captures) labels spectra := by
  induction labels with
  | nil => exact ⟨[], rfl, .nil⟩
  | cons label rest ih =>
      obtain ⟨bins, taken, size_eq⟩ := each label List.mem_cons_self
      obtain ⟨spectra, others, shows⟩ :=
        ih fun later member => each later (List.mem_cons_of_mem _ member)
      refine ⟨⟨label, bins⟩ :: spectra, ?_, .cons ⟨rfl, taken, size_eq⟩ shows⟩
      simp only [ofCaptures, ofCapture, taken, others]
      rfl

/-- **Complete captures have their spectra.** -/
theorem exists_all (valid : config.isValid) (complete : captures.Known config.Complete) :
    ∃ spectra, all config captures = .ok spectra ∧
      List.Forall₂ (Shows config captures) SpectrumLabel.all spectra := by
  have rules := Config.isValid_iff_obeys.mp valid
  refine exists_ofCaptures fun label _ => Spectrum.exists_levels rules.bins rules.even ?_
  rw [(complete.block label).size_eq]
  exact rules.enough

end CaptureSpectrum

end LoopbackCalibration
