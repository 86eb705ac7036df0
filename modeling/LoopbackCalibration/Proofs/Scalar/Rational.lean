import Mathlib.Data.Rat.Floor
import Mathlib.Tactic.Linarith
import LoopbackCalibration.Proofs.Spectrum.Bins

/-! # Rational scalars

The rational numbers as scalars: arithmetic is exact, and what it comes to can be evaluated. Toward
zero a number loses less than one, no integer loses anything, and the order is kept.
-/

namespace LoopbackCalibration

namespace Rational

/-- The whole part, toward zero. -/
def whole (value : ℚ) : ℤ :=
  if 0 ≤ value then ⌊value⌋ else ⌈value⌉

end Rational

instance : Arithmetic ℚ where
  decideLt _ _ := inferInstance
  decideLe _ _ := inferInstance
  ofCount count := count
  halvings count := 2⁻¹ ^ count
  truncate value := max (-2 ^ 63) (min (2 ^ 63 - 1) (Rational.whole value))
  belowInfinity _ := true
  stored value := value

namespace Rational

open Arithmetic

variable {first second value : ℚ}

@[simp] theorem ofCount_eq (count : Nat) : (ofCount count : ℚ) = count :=
  rfl

@[simp] theorem two_eq : (two : ℚ) = 2 := by
  norm_num [two]

theorem truncate_eq (value : ℚ) : truncate value = max (-2 ^ 63) (min (2 ^ 63 - 1) (whole value)) :=
  rfl

@[simp] theorem whole_intCast (value : ℤ) : whole value = value := by
  simp [whole]

theorem whole_of_nonneg (nonneg : 0 ≤ value) : whole value = ⌊value⌋ :=
  if_pos nonneg

theorem whole_of_neg (negative : value < 0) : whole value = ⌈value⌉ :=
  if_neg (not_le.mpr negative)

theorem whole_mono (below : first ≤ second) : whole first ≤ whole second := by
  by_cases later : second < 0
  · rw [whole_of_neg later, whole_of_neg (below.trans_lt later)]
    exact Int.ceil_mono below
  · rw [whole_of_nonneg (not_lt.mp later)]
    by_cases negative : first < 0
    · rw [whole_of_neg negative]
      have nonpos : ⌈first⌉ ≤ 0 := Int.ceil_le.mpr (by exact_mod_cast negative.le)
      exact nonpos.trans (Int.floor_nonneg.mpr (not_lt.mp later))
    · rw [whole_of_nonneg (not_lt.mp negative)]
      exact Int.floor_mono below

theorem abs_sub_whole_lt (value : ℚ) : |value - whole value| < 1 := by
  rw [abs_lt]
  by_cases negative : value < 0
  · rw [whole_of_neg negative]
    constructor <;> linarith [Int.le_ceil value, Int.ceil_lt_add_one value]
  · rw [whole_of_nonneg (not_lt.mp negative)]
    constructor <;> linarith [Int.floor_le value, Int.lt_floor_add_one value]

/-- A number below a positive integer stays below it. -/
theorem whole_lt_iff {bound : ℤ} (positive : 0 < bound) : whole value < bound ↔ value < bound := by
  by_cases negative : value < 0
  · have nonpos : ⌈value⌉ ≤ 0 := Int.ceil_le.mpr (by exact_mod_cast negative.le)
    rw [whole_of_neg negative]
    exact iff_of_true (by omega) (negative.trans (by exact_mod_cast positive))
  · rw [whole_of_nonneg (not_lt.mp negative)]
    exact Int.floor_lt

theorem truncate_mono (below : first ≤ second) :
    (truncate first : ℤ) ≤ truncate second := by
  rw [truncate_eq, truncate_eq]
  exact max_le_max le_rfl (min_le_min le_rfl (whole_mono below))

/-- A whole part that fits a word is not changed. -/
theorem truncate_eq_whole (fits : Spectrum.fitsWord (whole value)) :
    truncate value = whole value := by
  obtain ⟨least, greatest⟩ := fits
  rw [truncate_eq]
  omega

theorem truncate_intCast {value : ℤ} (fits : Spectrum.fitsWord value) :
    truncate (value : ℚ) = value := by
  rw [truncate_eq_whole, whole_intCast]
  rwa [whole_intCast]

end Rational

instance : Arithmetic.Truncates ℚ where
  fitsWord_truncate value := by
    rw [Rational.truncate_eq]
    unfold Spectrum.fitsWord
    omega

end LoopbackCalibration
