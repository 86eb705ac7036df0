import Mathlib.Data.List.Range
import LoopbackCalibration.Proofs.Scalar.Binary64
import LoopbackCalibration.Proofs.Spectrum.Bins

/-! # The peak around a marker

A marker reads the levels of a few bins around the bin of its frequency, as far as the spectrum
goes, and takes the largest of them, passing over those that are not numbers. Wherever the
frequency lies, at least its own bin is read (`Spectrum.markerLevel_isPeak`).
-/

namespace LoopbackCalibration

namespace Spectrum

open Arithmetic

variable {α : Type}

/-- The bins of a spectrum from three below a bin to two above it. -/
def scanned (size centre : Nat) : List Nat :=
  (List.range size).filter fun index => centre ≤ index + 3 ∧ index ≤ centre + 2

theorem mem_scanned_self {size centre : Nat} (inside : centre < size) :
    centre ∈ scanned size centre := by
  simp [scanned, inside]

/-- The bins within a slice are those that are scanned. -/
theorem scanned_eq_range' (size centre : Nat) :
    scanned size centre =
      List.range' (centre - 3) (min (centre + 3) size - (centre - 3)) := by
  induction size with
  | zero => simp [scanned]
  | succ size ih =>
      unfold scanned at ih ⊢
      rw [List.range_succ, List.filter_append, ih]
      by_cases within : centre ≤ size + 3 ∧ size ≤ centre + 2
      · have length : min (centre + 3) (size + 1) - (centre - 3) =
            min (centre + 3) size - (centre - 3) + 1 := by omega
        have last : centre - 3 + (min (centre + 3) size - (centre - 3)) = size := by omega
        rw [length, List.range'_concat, Nat.one_mul, last]
        simp [within]
      · have length : min (centre + 3) (size + 1) - (centre - 3) =
            min (centre + 3) size - (centre - 3) := by omega
        rw [length]
        simp [within]

/-- The window of a marker holds the level of every scanned bin. -/
theorem markerWindow_eq_scanned (levels : Array α) (centre : Nat) :
    (markerWindow levels centre).map some = (scanned levels.size centre).map (levels[·]?) := by
  rw [scanned_eq_range']
  refine List.ext_getElem ?_ fun index inside within => ?_
  · simp only [markerWindow, List.length_map, Array.length_toList, Array.size_extract,
      List.length_range']
    omega
  · rw [List.length_map, List.length_range'] at within
    have place : centre - 3 + index < levels.size := by omega
    simp [markerWindow, place]

section Fold

variable [Arithmetic α]

/-- A scalar is the largest of a list, what is not a number aside: it is one of them, a number if
any of them is one, and none of them exceeds it. -/
structure IsPeak (levels : List α) (peak : α) : Prop where
  member : peak ∈ levels
  isNumber_iff : isNumber peak ↔ ∃ level ∈ levels, isNumber level
  highest : ∀ level ∈ levels, ¬peak < level

theorem IsPeak.singleton [Ordered α] (level : α) : IsPeak [level] level where
  member := List.mem_singleton_self level
  isNumber_iff := by simp
  highest := by simpa using Ordered.irreflexive level

/-- One more level is passed over or becomes the peak. -/
theorem IsPeak.concat [Total α] {levels : List α} {peak : α} (isPeak : IsPeak levels peak)
    (next : α) : IsPeak (levels ++ [next]) (larger peak next) := by
  unfold larger
  by_cases number : isNumber peak
  · rw [if_pos number]
    have some_number : ∃ level ∈ levels ++ [next], isNumber level :=
      ⟨peak, List.mem_append_left _ isPeak.member, number⟩
    split_ifs with exceeded
    · refine ⟨by simp, iff_of_true (Total.isNumber_of_lt exceeded) some_number, ?_⟩
      intro level member above
      rcases List.mem_append.mp member with earlier | last
      · exact isPeak.highest level earlier (Ordered.transitive exceeded above)
      · obtain rfl := List.mem_singleton.mp last
        exact Ordered.irreflexive level above
    · refine ⟨List.mem_append_left _ isPeak.member, iff_of_true number some_number, ?_⟩
      intro level member
      rcases List.mem_append.mp member with earlier | last
      · exact isPeak.highest level earlier
      · rwa [List.mem_singleton.mp last]
  · rw [if_neg number]
    have none_earlier : ∀ level ∈ levels, ¬isNumber level := fun level member found =>
      number (isPeak.isNumber_iff.mpr ⟨level, member, found⟩)
    refine ⟨by simp, ?_, ?_⟩
    · refine ⟨fun found => ⟨next, by simp, found⟩, ?_⟩
      rintro ⟨level, member, found⟩
      rcases List.mem_append.mp member with earlier | last
      · exact absurd found (none_earlier level earlier)
      · rwa [← List.mem_singleton.mp last]
    · intro level member above
      rcases List.mem_append.mp member with earlier | last
      · exact none_earlier level earlier (Total.isNumber_of_lt above)
      · obtain rfl := List.mem_singleton.mp last
        exact Ordered.irreflexive level above

theorem IsPeak.fold [Total α] {levels : List α} {peak : α} (isPeak : IsPeak levels peak)
    (rest : List α) : IsPeak (levels ++ rest) (rest.foldl larger peak) := by
  induction rest generalizing levels peak with
  | nil => simpa using isPeak
  | cons next rest ih =>
      have further := ih (isPeak.concat next)
      rwa [List.append_assoc] at further

theorem isPeak_of_peak?_eq_some [Total α] {levels : List α} {peak : α}
    (found : peak? levels = some peak) : IsPeak levels peak := by
  cases levels with
  | nil => cases found
  | cons first rest =>
      obtain rfl := Option.some.inj found
      exact (IsPeak.singleton first).fold rest

/-- What a marker finds around a bin: the window is made of the scanned bins, the bin itself
among them, and what is found is the peak of their levels. -/
structure FindsPeak (levels : Array α) (centre : Nat) (level : α) : Prop where
  window_eq : (markerWindow levels centre).map some = (scanned levels.size centre).map (levels[·]?)
  covered : centre ∈ scanned levels.size centre
  isPeak : IsPeak (markerWindow levels centre) level

variable [Total α] {levels : Array α} {frequency rate : α}

theorem FindsPeak.of_binIndex? {centre : Nat}
    (found : binIndex? levels.size frequency rate = some centre) :
    ∃ level, markerLevel levels frequency rate = .found level ∧ FindsPeak levels centre level := by
  have inside := (located_of_eq_some found).inside
  have filled : levels.isEmpty = false := by
    simpa [Nat.pos_iff_ne_zero] using Nat.zero_lt_of_lt inside
  obtain ⟨first, rest, window⟩ :=
    List.exists_cons_of_ne_nil (List.ne_nil_of_mem (mem_markerWindow inside))
  have peak : peak? (markerWindow levels centre) = some (rest.foldl larger first) := by
    rw [window, peak?]
  refine ⟨_, ?_, markerWindow_eq_scanned levels centre, mem_scanned_self inside,
    isPeak_of_peak?_eq_some peak⟩
  simp only [markerLevel, filled, found, peak, Bool.false_eq_true, if_false]

/-- **A marker finds the peak of its window.** It finds nothing just in an empty spectrum. In any
other one that is not too long for a word it scans the bins from three below the bin of its
frequency to two above it, as far as there are any, provided the position of the frequency is a
word. Then it finds no number if none of their levels is one, and otherwise one of the levels that
none of them exceeds. -/
theorem markerLevel_isPeak (levels : Array α) (frequency rate : α) :
    (markerLevel levels frequency rate = .absent ↔ levels = #[]) ∧
      (0 < levels.size → levels.size < 2 ^ (63 : Nat) →
        fitsWord (binPosition levels.size frequency rate) →
        ∃ centre level, binIndex? levels.size frequency rate = some centre ∧
          markerLevel levels frequency rate = .found level ∧
          FindsPeak levels centre level) := by
  constructor
  · refine ⟨fun absent => ?_, fun empty => if_pos (by rw [empty]; rfl)⟩
    rcases located : binIndex? levels.size frequency rate with _ | centre
    · by_contra nonempty
      have filled : levels.isEmpty = false := by
        simpa using nonempty
      simp [markerLevel, filled, located] at absent
    · obtain ⟨level, found, -⟩ := FindsPeak.of_binIndex? located
      rw [absent] at found
      cases found
  · intro filled small fits
    have word : fitsWord levels.size := by
      unfold fitsWord
      omega
    have located : ∃ centre, binIndex? levels.size frequency rate = some centre := by
      simp [binIndex?, filled.ne', word, fits]
    obtain ⟨centre, located⟩ := located
    obtain ⟨level, found, peak⟩ := FindsPeak.of_binIndex? located
    exact ⟨centre, level, located, found, peak⟩

end Fold

/-- A spectrum with two bins that have no level. -/
def gapped : Array Float := #[Binary64.notNumber, -30, -20, Binary64.notNumber, -10]

/-- Far below the spectrum the window is clipped to the first three bins. -/
theorem markerLevel_isPeak_gapped :
    scanned gapped.size 0 = [0, 1, 2] ∧
      ∃ level, markerLevel gapped (-100) 10 = .found level ∧ FindsPeak gapped 0 level := by
  obtain ⟨-, finds⟩ := markerLevel_isPeak gapped (-100) 10
  obtain ⟨centre, level, located, found, peak⟩ :=
    finds (by decide) (by decide) (by decide +kernel)
  have first : binIndex? gapped.size (-100 : Float) 10 = some 0 := by decide +kernel
  obtain rfl := Option.some.inj (located.symm.trans first)
  exact ⟨rfl, level, found, peak⟩

end Spectrum

end LoopbackCalibration
