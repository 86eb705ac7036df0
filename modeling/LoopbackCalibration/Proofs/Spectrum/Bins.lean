import Mathlib.Tactic.SplitIfs
import LoopbackCalibration.Scalar.Binary64
import LoopbackCalibration.Spectrum

/-! # The bin of a frequency

The bin of a frequency is counted from the middle of the spectrum. The count is a word, but with
the middle added to it it need not be one any more, although the bin is brought into range
afterwards. Just if it still is (`Spectrum.InReach`), the frequency has a bin, and a marker at
that frequency can be read (`Spectrum.binIndex?_isSome_iff`, `Spectrum.markerLevel_of_filled`).
-/

namespace LoopbackCalibration

variable {α : Type} [Arithmetic α]

/-- Whatever is truncated fits a word. -/
class Arithmetic.Truncates (α : Type) [Arithmetic α] : Prop where
  fitsWord_truncate : ∀ value : α, Spectrum.fitsWord (truncate value)

instance : Arithmetic.Truncates Float where
  fitsWord_truncate value := by
    change Spectrum.fitsWord (Binary64.truncate value)
    simp only [Spectrum.fitsWord, Binary64.truncate, Binary64.leastWord, Binary64.greatestWord]
    split
    · omega
    · split <;> omega
    · omega

namespace Spectrum

open Arithmetic

/-- The position of the frequency does not exceed the last word. -/
def InReach (size : Nat) (frequency rate : α) : Prop :=
  binPosition size frequency rate < 2 ^ (63 : Nat)

instance (size : Nat) (frequency rate : α) : Decidable (InReach size frequency rate) :=
  inferInstanceAs (Decidable (_ < _))

/-- The bin of a frequency lies in the spectrum, and so does the slice that is scanned
around it. -/
structure Located (size : Nat) (frequency rate : α) (index : Nat) : Prop where
  index_eq : binIndex? size frequency rate = some index
  inside : index < size
  slice : index - 3 < min (index + 3) size ∧ min (index + 3) size ≤ size

variable {size : Nat} {frequency rate : α} {levels : Array α}

/-- No position falls below the first word. -/
theorem fitsWord_binPosition_iff [Truncates α] :
    fitsWord (binPosition size frequency rate) ↔ InReach size frequency rate := by
  have word : fitsWord (truncate (ofCount size * frequency / rate)) :=
    Truncates.fitsWord_truncate _
  simp only [fitsWord, InReach, binPosition] at word ⊢
  omega

/-- A spectrum has a bin for a frequency just if its size is a word and the frequency is in
reach. -/
theorem binIndex?_isSome_iff [Truncates α] (positive : 0 < size) :
    (binIndex? size frequency rate).isSome ↔
      size < 2 ^ (63 : Nat) ∧ InReach size frequency rate := by
  have fits : fitsWord size ↔ size < 2 ^ (63 : Nat) := by
    unfold fitsWord
    omega
  rw [← fits, ← fitsWord_binPosition_iff, binIndex?]
  split_ifs with lost
  · refine iff_of_false nofun fun found => ?_
    exact lost.elim (Nat.pos_iff_ne_zero.mp positive) fun overflows =>
      overflows.elim (absurd found.1) (absurd found.2)
  · obtain ⟨-, found⟩ := not_or.mp lost
    obtain ⟨fitting, within⟩ := not_or.mp found
    exact iff_of_true rfl ⟨Decidable.not_not.mp fitting, Decidable.not_not.mp within⟩

theorem located_of_eq_some {index : Nat} (found : binIndex? size frequency rate = some index) :
    Located size frequency rate index := by
  have bounded : 0 < size ∧ index ≤ size - 1 := by
    simp only [binIndex?] at found
    split_ifs at found with lost
    have index_eq := Option.some.inj found
    obtain ⟨filled, -⟩ := not_or.mp lost
    omega
  exact ⟨found, by omega, by omega, by omega⟩

omit [Arithmetic α] in
theorem mem_markerWindow {centre : Nat} (inside : centre < levels.size) :
    levels[centre] ∈ markerWindow levels centre := by
  rw [markerWindow, Array.mem_toList_iff, Array.mem_extract_iff_getElem]
  refine ⟨centre - (centre - 3), by omega, ?_⟩
  congr 1
  omega

/-- A marker is read off a spectrum just if its frequency is in reach. -/
theorem markerLevel_of_filled [Truncates α] (filled : 0 < levels.size)
    (small : levels.size < 2 ^ (63 : Nat)) :
    if InReach levels.size frequency rate then
      ∃ index, Located levels.size frequency rate index ∧
        ∃ level, markerLevel levels frequency rate = .found level
    else
      markerLevel levels frequency rate = .outOfRange := by
  have nonempty : levels.isEmpty = false := by
    simpa [Nat.pos_iff_ne_zero] using filled
  have reaches : (binIndex? levels.size frequency rate).isSome ↔ _ := binIndex?_isSome_iff filled
  rcases index_eq : binIndex? levels.size frequency rate with _ | index
  · have lost : ¬InReach levels.size frequency rate := by
      intro reached
      simp [index_eq, small, reached] at reaches
    rw [if_neg lost]
    simp only [markerLevel, nonempty, index_eq, Bool.false_eq_true, if_false]
  · have located := located_of_eq_some index_eq
    have reached : InReach levels.size frequency rate := by
      simpa [index_eq, small] using reaches
    rw [if_pos reached]
    refine ⟨index, located, ?_⟩
    obtain ⟨first, rest, window⟩ :=
      List.exists_cons_of_ne_nil (List.ne_nil_of_mem (mem_markerWindow located.inside))
    simp only [markerLevel, nonempty, index_eq, window, peak?, Bool.false_eq_true, if_false]
    exact ⟨_, rfl⟩

end Spectrum

end LoopbackCalibration
