import LoopbackCalibration.Proofs.Report.Spectra
import LoopbackCalibration.Proofs.Simulator.Residue
import LoopbackCalibration.Proofs.Spectrum.Bins
import LoopbackCalibration.Report.Written

/-! # The markers of a report

The report of a calibration reads every marker whose frequency is in reach of its spectrum, and
can be written unless one is not. The rules of a configuration do not limit the offsets that the
markers lie at, so a calibration may come to an outcome that cannot be reported
(`Report.markers_in_reach`, `Report.unreportable`).
-/

namespace LoopbackCalibration

variable {α : Type}

/-- The marker is read off a spectrum of so many bins, or its frequency is out of reach. -/
def Marker.Read [Arithmetic α] (size : Nat) (rate : α) (marker : Marker α) : Prop :=
  if Spectrum.InReach size marker.frequency rate then
    ∃ index, Spectrum.Located size marker.frequency rate index ∧
      ∃ level, marker.reading = .found level
  else
    marker.reading = .outOfRange

theorem Marker.Read.reading_ne_iff [Arithmetic α] {size : Nat} {rate : α} {marker : Marker α}
    (read : marker.Read size rate) :
    marker.reading ≠ .outOfRange ↔ Spectrum.InReach size marker.frequency rate := by
  unfold Marker.Read at read
  split_ifs at read with reached
  · obtain ⟨-, -, level, found⟩ := read
    rw [found]
    exact iff_of_true nofun reached
  · exact iff_of_false (not_not_intro read) reached

namespace CaptureSpectrum

variable [Scalar α] {config : Config α}

theorem read_of_mem_markers [Arithmetic.Truncates α] {spectrum : CaptureSpectrum α}
    (size_eq : spectrum.levels.size = config.binsPerFft) (positive : 0 < config.binsPerFft)
    (small : config.binsPerFft < 2 ^ (63 : Nat)) :
    ∀ marker ∈ spectrum.markers config, marker.Read config.binsPerFft config.sampleRate := by
  rw [← size_eq] at positive small ⊢
  refine List.forall_mem_map.mpr fun point _ => ?_
  exact Spectrum.markerLevel_of_filled positive small

/-- The markers of the spectra of an outcome are those of every direction and channel. -/
theorem forall_markers_iff {captures : StageCaptures α} {spectra : List (CaptureSpectrum α)}
    (shows : List.Forall₂ (Shows config captures) SpectrumLabel.all spectra) (holds : α → Prop) :
    (∀ spectrum ∈ spectra, ∀ marker ∈ spectrum.markers config, holds marker.frequency) ↔
      ∀ direction channel, ∀ point ∈ points config direction channel, holds point.2 := by
  have labels : (∀ spectrum ∈ spectra, ∀ marker ∈ spectrum.markers config,
      holds marker.frequency) ↔ ∀ label ∈ spectra.map CaptureSpectrum.label,
        ∀ point ∈ points config label.direction label.channel, holds point.2 := by
    simp only [markers, List.forall_mem_map]
  rw [labels, labels_eq shows]
  exact ⟨fun all direction channel => all ⟨direction, true, channel⟩ (SpectrumLabel.mem_all _),
    fun all label _ => all label.direction label.channel⟩

end CaptureSpectrum

namespace Report

theorem mapM_isSome_iff {β γ : Type} {convert : β → Option γ} {list : List β} :
    (list.mapM convert).isSome ↔ ∀ element ∈ list, (convert element).isSome := by
  induction list with
  | nil => simp
  | cons element rest ih =>
      rw [List.mapM_cons, List.forall_mem_cons, ← ih]
      cases convert element <;> cases rest.mapM convert <;> simp

theorem marker?_isSome_iff {marker : Marker Float} :
    (marker? marker).isSome ↔ marker.reading ≠ .outOfRange := by
  obtain ⟨label, frequency, reading⟩ := marker
  cases reading <;> simp [marker?]

/-- There is a summary unless a marker is out of range. -/
theorem summary?_isSome_iff {config : Config Float} {outcome : Outcome Float}
    {spectra : List (CaptureSpectrum Float)} :
    (summary? config outcome spectra).isSome ↔
      ∀ spectrum ∈ spectra, ∀ marker ∈ spectrum.markers config, marker.reading ≠ .outOfRange := by
  have each (spectrum : CaptureSpectrum Float) : (spectrum? config spectrum).isSome ↔
      ∀ marker ∈ spectrum.markers config, marker.reading ≠ .outOfRange := by
    simp only [← marker?_isSome_iff, ← mapM_isSome_iff, spectrum?]
    cases (spectrum.markers config).mapM marker? <;> rfl
  simp only [← each, ← mapM_isSome_iff, summary?]
  cases spectra.mapM (spectrum? config) <;> rfl

section Runs

variable {σ η : Type} {rig : Rig σ η Float} {config : Config Float} {frequency : Float}
  {progress after : Progress σ} {outcome : Outcome Float} {spectra : List (CaptureSpectrum Float)}

/-- The spectra of an outcome are taken, and their markers read as far as they are in reach. -/
theorem read_of_run (valid : config.isValid)
    (succeeds : Calibration.run rig config frequency progress = (.ok outcome, after)) :
    ∃ spectra, CaptureSpectrum.all config outcome.captures = .ok spectra ∧
      List.Forall₂ (CaptureSpectrum.Shows config outcome.captures) SpectrumLabel.all spectra ∧
      ∀ spectrum ∈ spectra, spectrum.levels.size = config.binsPerFft ∧
        ∀ marker ∈ spectrum.markers config, marker.Read config.binsPerFft config.sampleRate := by
  have complete : outcome.captures.Known config.Complete :=
    (Calibration.known_run frequency (Calibration.complete_capture rig config)).of_ok trivial
      succeeds
  obtain ⟨spectra, taken, shows⟩ := CaptureSpectrum.exists_all valid complete
  refine ⟨spectra, taken, shows, fun spectrum member => ?_⟩
  have size_eq := CaptureSpectrum.size_of_mem shows spectrum member
  have rules := Config.isValid_iff_obeys.mp valid
  have fits := complete.rxInitial.fits
  have enough := rules.enough
  simp only [Acquisition.capacity] at fits
  exact ⟨size_eq, CaptureSpectrum.read_of_mem_markers size_eq rules.bins (by omega)⟩

/-- There is a summary just if the frequencies of all markers are in reach. -/
theorem summary?_isSome_iff_inReach
    (shows : List.Forall₂ (CaptureSpectrum.Shows config outcome.captures) SpectrumLabel.all spectra)
    (reads : ∀ spectrum ∈ spectra, spectrum.levels.size = config.binsPerFft ∧
      ∀ marker ∈ spectrum.markers config, marker.Read config.binsPerFft config.sampleRate) :
    (summary? config outcome spectra).isSome ↔
      ∀ direction channel, ∀ point ∈ CaptureSpectrum.points config direction channel,
        Spectrum.InReach config.binsPerFft point.2 config.sampleRate := by
  rw [summary?_isSome_iff, ← CaptureSpectrum.forall_markers_iff shows
    fun frequency => Spectrum.InReach config.binsPerFft frequency config.sampleRate]
  exact forall₂_congr fun spectrum member => forall₂_congr fun marker marks =>
    ((reads spectrum member).2 marker marks).reading_ne_iff

/-- **Markers in reach.** A spectrum has a bin for a frequency just if it is not too long for a
word and the frequency is in reach, and the bin and the slice around it then lie in the spectrum.
Every outcome of a run with valid settings has its spectra, and the report reads each of their
markers that is in reach. There is a summary just if all are. -/
theorem markers_in_reach (valid : config.isValid)
    (succeeds : Calibration.run rig config frequency progress = (.ok outcome, after)) :
    (∀ (size : Nat) (frequency rate : Float), 2 ≤ size →
      ((Spectrum.binIndex? size frequency rate).isSome ↔
        size < 2 ^ (63 : Nat) ∧ Spectrum.InReach size frequency rate) ∧
      ∀ index, Spectrum.binIndex? size frequency rate = some index →
        Spectrum.Located size frequency rate index) ∧
    ∃ spectra, CaptureSpectrum.all config outcome.captures = .ok spectra ∧
      spectra.map CaptureSpectrum.label = SpectrumLabel.all ∧
      (∀ spectrum ∈ spectra, spectrum.levels.size = config.binsPerFft ∧
        ∀ marker ∈ spectrum.markers config, marker.Read config.binsPerFft config.sampleRate) ∧
      ((summary? config outcome spectra).isSome ↔
        ∀ direction channel, ∀ point ∈ CaptureSpectrum.points config direction channel,
          Spectrum.InReach config.binsPerFft point.2 config.sampleRate) := by
  refine ⟨fun size frequency rate two => ⟨Spectrum.binIndex?_isSome_iff (by omega),
    fun index => Spectrum.located_of_eq_some⟩, ?_⟩
  obtain ⟨spectra, taken, shows, reads⟩ := read_of_run valid succeeds
  exact ⟨spectra, taken, CaptureSpectrum.labels_eq shows, reads,
    summary?_isSome_iff_inReach shows reads⟩

end Runs

open Calibration

theorem markers_in_reach_fresh : quick.isValid ∧
    (Spectrum.binIndex? quick.binsPerFft quick.txDelta quick.sampleRate).isSome ∧
    ∃ outcome after spectra,
      run (Simulator.timed (.resting 1000) fun _ => false) quick 1000000000 ⟨.initial, fresh, 0⟩ =
          (.ok outcome, after) ∧
        CaptureSpectrum.all quick outcome.captures = .ok spectra ∧
        (summary? quick outcome spectra).isSome := by
  have valid : quick.isValid := by decide +kernel
  have reached : ∀ direction channel, ∀ point ∈ CaptureSpectrum.points quick direction channel,
      Spectrum.InReach quick.binsPerFft point.2 quick.sampleRate := by
    rintro (_ | _) (_ | _) <;> decide +kernel
  have succeeds : (run (Simulator.timed (.resting 1000) fun _ => false) quick 1000000000
      ⟨.initial, fresh, 0⟩).1.isOk := by decide +kernel
  rcases result : run (Simulator.timed (.resting 1000) fun _ => false) quick 1000000000
    ⟨.initial, fresh, 0⟩ with ⟨halt | outcome, after⟩
  · rw [result] at succeeds
    cases succeeds
  · obtain ⟨bins, spectra, taken, -, -, summary⟩ := markers_in_reach valid result
    have located := (bins quick.binsPerFft quick.txDelta quick.sampleRate (by decide)).1.mpr
      ⟨by decide, by decide +kernel⟩
    exact ⟨valid, located, outcome, after, spectra, rfl, taken, summary.mpr reached⟩

/-- An offset of the oscillators that no transceiver can be tuned to. -/
def distant : Config Float := { quick with txDelta := 1e300 }

/-- No bin is found for a frequency that is too far away, and with an offset as large as that a
calibration comes to an outcome that has its spectra but no summary. -/
theorem unreportable :
    Spectrum.binIndex? 2 (1e300 : Float) 10000000 = none ∧ distant.isValid ∧
    ∃ outcome after spectra,
      run (Simulator.timed (.resting 1000) fun _ => false) distant 1000000000
          ⟨.initial, fresh, 0⟩ = (.ok outcome, after) ∧
        CaptureSpectrum.all distant outcome.captures = .ok spectra ∧
        summary? distant outcome spectra = none := by
  have valid : distant.isValid := by decide +kernel
  have lost : ¬∀ direction channel, ∀ point ∈ CaptureSpectrum.points distant direction channel,
      Spectrum.InReach distant.binsPerFft point.2 distant.sampleRate := by
    intro reached
    exact absurd (reached .rx .a) (by decide +kernel)
  have succeeds : (run (Simulator.timed (.resting 1000) fun _ => false) distant 1000000000
      ⟨.initial, fresh, 0⟩).1.isOk := by decide +kernel
  refine ⟨by decide +kernel, valid, ?_⟩
  rcases result : run (Simulator.timed (.resting 1000) fun _ => false) distant 1000000000
    ⟨.initial, fresh, 0⟩ with ⟨halt | outcome, after⟩
  · rw [result] at succeeds
    cases succeeds
  · obtain ⟨spectra, taken, shows, reads⟩ := read_of_run valid result
    refine ⟨outcome, after, spectra, rfl, taken, ?_⟩
    rw [← Option.not_isSome_iff_eq_none, summary?_isSome_iff_inReach shows reads]
    exact lost

end Report

end LoopbackCalibration
