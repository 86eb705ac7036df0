import LoopbackCalibration.Proofs.Calibration.Range
import LoopbackCalibration.Proofs.Decimal.Figures
import LoopbackCalibration.Proofs.Report.Spectra
import LoopbackCalibration.Report.Written

/-! # The table of a report

Every outcome of a calibration with valid settings has its eight spectra, and the table of these
can be read back: a record with the names of the spectra, and after it a record for each bin with
its frequency and its level in each spectrum (`Report.table_of_outcome`).
-/

namespace LoopbackCalibration

/-- The captures of both channels in the order of their spectra, each under its name. -/
def StageCaptures.named {α : Type} (captures : StageCaptures α) :
    List (String × Array (Phasor α)) :=
  [("rx_initial_a", captures.rxInitial.samples .a),
    ("rx_initial_b", captures.rxInitial.samples .b),
    ("rx_final_a", captures.rxFinal.samples .a),
    ("rx_final_b", captures.rxFinal.samples .b),
    ("tx_initial_a", captures.txInitial.samples .a),
    ("tx_initial_b", captures.txInitial.samples .b),
    ("tx_final_a", captures.txFinal.samples .a),
    ("tx_final_b", captures.txFinal.samples .b)]

theorem SpectrumLabel.names : SpectrumLabel.all.map SpectrumLabel.name =
    ["rx_initial_a", "rx_initial_b", "rx_final_a", "rx_final_b",
      "tx_initial_a", "tx_initial_b", "tx_final_a", "tx_final_b"] := by
  decide +kernel

theorem StageCaptures.named_eq {α : Type} (captures : StageCaptures α) :
    captures.named = SpectrumLabel.all.map fun label =>
      (label.name, (label.block captures).samples label.channel) := by
  rw [← List.zip_map', SpectrumLabel.names]
  rfl

namespace CaptureSpectrum

/-- The spectrum of samples that are reported under a name, with a level for each bin. -/
structure Of {α : Type} [Scalar α] (config : Config α) (capture : String × Array (Phasor α))
    (spectrum : CaptureSpectrum α) : Prop where
  name_eq : spectrum.label.name = capture.1
  levels_eq : Spectrum.levels capture.2 config.binsPerFft = .ok spectrum.levels
  size_eq : spectrum.levels.size = config.binsPerFft

variable {α : Type} [Scalar α] {config : Config α} {captures : StageCaptures α}
  {spectra : List (CaptureSpectrum α)}

theorem forall₂_of (shows : List.Forall₂ (Shows config captures) SpectrumLabel.all spectra) :
    List.Forall₂ (Of config) captures.named spectra := by
  rw [captures.named_eq, List.forall₂_map_left_iff]
  refine shows.imp fun label spectrum shown => ?_
  obtain ⟨rfl, levels_eq, size_eq⟩ := shown
  exact ⟨rfl, levels_eq, size_eq⟩

end CaptureSpectrum

namespace Report

/-- What a table holds: records end with a line feed, and commas separate their fields. -/
def records (text : String) : List (List String) :=
  (text.toList.splitOn '\n').dropLast.map fun line => (line.splitOn ',').map String.ofList

/-- Nothing in the text separates fields or ends a record. -/
def Whole (text : String) : Prop :=
  ',' ∉ text.toList ∧ '\n' ∉ text.toList

instance (text : String) : Decidable (Whole text) :=
  inferInstanceAs (Decidable (_ ∧ _))

theorem whole_of_figures {text : String} (figures : Decimal.Figures text) : Whole text :=
  ⟨fun member => absurd (figures _ member) (by decide),
    fun member => absurd (figures _ member) (by decide)⟩

theorem whole_name (label : SpectrumLabel) : Whole label.name := by
  obtain ⟨direction, initial, channel⟩ := label
  cases direction <;> cases initial <;> cases channel <;> decide +kernel

/-- The fields of a line with commas between them. -/
private def line (fields : List String) : List Char :=
  [','].intercalate (fields.map String.toList)

private theorem toList_record (fields : List String) :
    (record fields).toList = line fields ++ ['\n'] := by
  rw [record, String.toList_append, String.toList_intercalate]
  rfl

private theorem not_mem_line {fields : List String} (whole : ∀ field ∈ fields, Whole field) :
    '\n' ∉ line fields := by
  induction fields with
  | nil => exact List.not_mem_nil
  | cons first rest ih =>
      obtain ⟨here, later⟩ := List.forall_mem_cons.mp whole
      by_cases last : rest = []
      · subst last
        simpa [line] using here.2
      · have more : rest.map String.toList ≠ [] := mt List.map_eq_nil_iff.mp last
        unfold line at ih ⊢
        rw [List.map_cons, List.intercalate_cons_of_ne_nil more]
        simpa using ⟨here.2, ih later⟩

private theorem splitOn_line {fields : List String} (filled : fields ≠ [])
    (whole : ∀ field ∈ fields, Whole field) :
    ((line fields).splitOn ',').map String.ofList = fields := by
  unfold line
  rw [List.splitOn_intercalate ',' ?_ (mt List.map_eq_nil_iff.mp filled), List.map_map]
  · refine (List.map_congr_left fun field _ => ?_).trans (List.map_id fields)
    exact String.ofList_toList
  · intro text member
    obtain ⟨field, place, rfl⟩ := List.mem_map.mp member
    exact (whole field place).1

private theorem splitOn_records {rows : List (List String)}
    (whole : ∀ row ∈ rows, ∀ field ∈ row, Whole field) :
    (String.join (rows.map record)).toList.splitOn '\n' = rows.map line ++ [[]] := by
  induction rows with
  | nil => rfl
  | cons first rest ih =>
      obtain ⟨here, later⟩ := List.forall_mem_cons.mp whole
      have begins : (String.join ((first :: rest).map record)).toList =
          line first ++ '\n' :: (String.join (rest.map record)).toList := by
        rw [List.map_cons, String.toList_join, List.flatMap_cons, ← String.toList_join,
          toList_record, List.append_assoc]
        rfl
      rw [begins, List.splitOn_append_cons_self_of_not_mem (not_mem_line here), ih later]
      rfl

/-- **Records are read back.** -/
theorem records_join {rows : List (List String)} (filled : ∀ row ∈ rows, row ≠ [])
    (whole : ∀ row ∈ rows, ∀ field ∈ row, Whole field) :
    records (String.join (rows.map record)) = rows := by
  unfold records
  rw [splitOn_records whole, List.dropLast_concat, List.map_map]
  refine (List.map_congr_left fun row member => ?_).trans (List.map_id rows)
  exact splitOn_line (filled row member) (whole row member)

variable {config : Config Float} {spectra : List (CaptureSpectrum Float)}

/-- The fields of the table after its first record. -/
def rows (config : Config Float) (spectra : List (CaptureSpectrum Float)) : List (List String) :=
  (Spectrum.binFrequencies config.binsPerFft config.sampleRate).toList.zipIdx.map
    fun (frequency, index) => Decimal.plain frequency ::
      spectra.map fun spectrum => Decimal.fixed 3 (spectrum.levels.getD index 0)

/-- The fields of the first line of a table. -/
def header (spectra : List (CaptureSpectrum Float)) : List String :=
  "frequency_hz" :: spectra.map fun spectrum => spectrum.label.name

theorem table_eq : table config spectra =
    String.join ((header spectra :: rows config spectra).map record) := by
  rw [List.map_cons, String.join_cons, rows, List.map_map]
  rfl

private theorem whole_of_mem_row {index : Nat} {frequency : Float} :
    ∀ field ∈ Decimal.plain frequency ::
      spectra.map fun spectrum => Decimal.fixed 3 (spectrum.levels.getD index 0), Whole field :=
  List.forall_mem_cons.mpr ⟨whole_of_figures (Decimal.figures_plain frequency),
    List.forall_mem_map.mpr fun _ _ => whole_of_figures (Decimal.figures_fixed 3 _)⟩

/-- The table is read back, whatever the spectra hold. -/
theorem records_table : records (table config spectra) = header spectra :: rows config spectra := by
  rw [table_eq]
  refine records_join (List.forall_mem_cons.mpr ⟨List.cons_ne_nil _ _, ?_⟩)
    (List.forall_mem_cons.mpr ⟨List.forall_mem_cons.mpr ⟨by decide, ?_⟩, ?_⟩)
  · exact List.forall_mem_map.mpr fun _ _ => List.cons_ne_nil _ _
  · exact List.forall_mem_map.mpr fun spectrum _ => whole_name spectrum.label
  · exact List.forall_mem_map.mpr fun _ _ => whole_of_mem_row

/-- The fields of a bin: its frequency, and the level that each spectrum has in it. -/
def IsRow (config : Config Float) (spectra : List (CaptureSpectrum Float)) (bin : Nat)
    (fields : List String) : Prop :=
  ∃ frequency levels,
    (Spectrum.binFrequencies config.binsPerFft config.sampleRate)[bin]? = some frequency ∧
      List.Forall₂ (fun spectrum level => spectrum.levels[bin]? = some level) spectra levels ∧
      fields = Decimal.plain frequency :: levels.map (Decimal.fixed 3)

theorem length_rows : (rows config spectra).length = config.binsPerFft := by
  simp [rows, Spectrum.binFrequencies]

theorem isRow_rows {bin : Nat} (inside : bin < config.binsPerFft)
    (sizes : ∀ spectrum ∈ spectra, spectrum.levels.size = config.binsPerFft) :
    ∃ fields, (rows config spectra)[bin]? = some fields ∧ IsRow config spectra bin fields := by
  have within : bin < (Spectrum.binFrequencies config.binsPerFft config.sampleRate).size := by
    simpa [Spectrum.binFrequencies] using inside
  refine ⟨_, ?_, (Spectrum.binFrequencies config.binsPerFft config.sampleRate)[bin],
    spectra.map fun spectrum => spectrum.levels.getD bin 0, Array.getElem?_eq_getElem within, ?_,
    rfl⟩
  · rw [rows, List.getElem?_map, List.getElem?_zipIdx, Array.getElem?_toList,
      Array.getElem?_eq_getElem within, List.map_map]
    simp only [Option.map_some, Nat.zero_add]
    rfl
  · refine List.forall₂_map_right_iff.mpr (List.forall₂_same.mpr fun spectrum member => ?_)
    have held : bin < spectrum.levels.size := (sizes spectrum member).symm ▸ inside
    rw [Array.getElem?_eq_getElem held, Array.getD, dif_pos held]
    rfl

variable {σ η : Type} {rig : Rig σ η Float} {stream : η} {progress after : Progress σ}
  {frequency : Float} {outcome : Outcome Float}

/-- **The table of an outcome.** Every outcome of a valid configuration has its eight spectra, in
order and complete. The table has nine fields in each record: the names of the spectra in the first
one, and in the one after the first for each bin what the spectra show in it. -/
theorem table_of_outcome (valid : config.isValid)
    (calibrates : Calibration.calibrate rig config frequency stream progress =
      (.ok outcome, after)) :
    ∃ spectra, CaptureSpectrum.all config outcome.captures = .ok spectra ∧ spectra.length = 8 ∧
      List.Forall₂ (CaptureSpectrum.Of config) outcome.captures.named spectra ∧
      (∀ fields ∈ records (table config spectra), fields.length = 9) ∧
      ∃ rows, records (table config spectra) =
          ("frequency_hz" :: outcome.captures.named.map Prod.fst) :: rows ∧
        rows.length = config.binsPerFft ∧
        ∀ bin < config.binsPerFft, ∃ fields, rows[bin]? = some fields ∧
          IsRow config spectra bin fields := by
  have complete : outcome.captures.Known config.Complete :=
    (Calibration.known_calibrate frequency
      (Calibration.complete_capture rig config stream)).of_ok trivial calibrates
  obtain ⟨spectra, taken, shows⟩ := CaptureSpectrum.exists_all valid complete
  have each := CaptureSpectrum.forall₂_of shows
  have eight : spectra.length = 8 := each.length_eq.symm
  have names : header spectra = "frequency_hz" :: outcome.captures.named.map Prod.fst := by
    have labels : (spectra.map fun spectrum => spectrum.label.name) =
        SpectrumLabel.all.map SpectrumLabel.name := by
      rw [← CaptureSpectrum.labels_eq shows, List.map_map]
      rfl
    rw [header, labels, SpectrumLabel.names]
    rfl
  refine ⟨spectra, taken, eight, each, ?_, rows config spectra, ?_, length_rows, fun bin inside =>
    isRow_rows inside (CaptureSpectrum.size_of_mem shows)⟩
  · rw [records_table]
    refine List.forall_mem_cons.mpr ⟨?_, List.forall_mem_map.mpr fun _ _ => ?_⟩ <;>
      simp [header, eight]
  · rw [records_table, names]

open Calibration

theorem table_of_outcome_quick : quick.isValid ∧ ∃ outcome after spectra,
    calibrate (Rig.obliging 0) quick 1000000000 () ⟨.initial, ()⟩ = (.ok outcome, after) ∧
      CaptureSpectrum.all quick outcome.captures = .ok spectra ∧ spectra.length = 8 ∧
      (records (table quick spectra)).length = 5 := by
  have valid : quick.isValid := by decide +kernel
  have succeeds : (calibrate (Rig.obliging 0) quick 1000000000 () ⟨.initial, ()⟩).1.isOk := by
    decide +kernel
  rcases result : calibrate (Rig.obliging 0) quick 1000000000 () ⟨.initial, ()⟩ with
    ⟨halt | outcome, after⟩
  · rw [result] at succeeds
    cases succeeds
  · obtain ⟨spectra, taken, eight, -, -, rows, table_eq, length_eq, -⟩ :=
      table_of_outcome valid result
    refine ⟨valid, outcome, after, spectra, rfl, taken, eight, ?_⟩
    rw [table_eq, List.length_cons, length_eq]
    rfl

end Report

end LoopbackCalibration
