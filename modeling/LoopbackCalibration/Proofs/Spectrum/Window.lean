import LoopbackCalibration.Proofs.Scalar.Extended
import LoopbackCalibration.Window

/-! # The power of windows

A window has power just if one of its weights is not zero. A raised-cosine window is zero at both
ends, so a window of two weights has no power at all, and a window of any other size has some
(`Window.power_hann_pos_iff`).
-/

namespace LoopbackCalibration

open Arithmetic

namespace Window

theorem hannWeight_eq (size index : Nat) : (hannWeight size index : ℝ) =
    1 / 2 - 1 / 2 * Real.cos (2 * Real.pi * index / (size - 1 : ℕ)) := by
  change (1 / (1 + 1) - 1 / (1 + 1) * Real.cos ((1 + 1) * Real.pi * index / (size - 1 : ℕ)) : ℝ) = _
  rw [one_add_one_eq_two]

theorem power_eq (window : Array ℝ) :
    power window = (window.toList.map fun weight => weight * weight).sum / window.size := by
  have total : (window.toList.map fun weight => weight * weight).sum =
      window.foldl (fun total weight => total + weight * weight) 0 := by
    rw [List.sum_eq_foldl, List.foldl_map, Array.foldl_toList]
  rw [total]
  unfold power
  split_ifs with empty
  · rw [Array.isEmpty_iff.mp empty]
    exact (zero_div _).symm
  · rfl

private theorem squares_nonneg (window : Array ℝ) :
    ∀ square ∈ window.toList.map fun weight => weight * weight, 0 ≤ square := by
  intro square member
  obtain ⟨weight, -, rfl⟩ := List.mem_map.mp member
  exact mul_self_nonneg weight

theorem power_nonneg (window : Array ℝ) : 0 ≤ power window := by
  rw [power_eq]
  exact div_nonneg (List.sum_nonneg (squares_nonneg window)) (Nat.cast_nonneg _)

theorem power_pos_iff (window : Array ℝ) : 0 < power window ↔ ∃ weight ∈ window, weight ≠ 0 := by
  rw [power_eq]
  constructor
  · intro positive
    by_contra! zeros
    refine positive.ne' ?_
    rw [List.sum_eq_zero, zero_div]
    intro square member
    obtain ⟨weight, place, rfl⟩ := List.mem_map.mp member
    rw [zeros weight (Array.mem_toList_iff.mp place), mul_zero]
  · rintro ⟨weight, member, nonzero⟩
    refine div_pos ?_ (Nat.cast_pos.mpr (Array.size_pos_of_mem member))
    refine (mul_self_pos.mpr nonzero).trans_le (List.single_le_sum (squares_nonneg window) _ ?_)
    exact List.mem_map_of_mem (Array.mem_toList_iff.mpr member)

/-- The weight after the first one lies on the rise of the window. -/
private theorem hannWeight_one_pos {size : Nat} (long : 3 ≤ size) :
    0 < (hannWeight size 1 : ℝ) := by
  have steps : (2 : ℝ) ≤ (size - 1 : ℕ) := by exact_mod_cast (by omega : 2 ≤ size - 1)
  have turns : 0 < 2 * Real.pi * (1 : ℕ) / (size - 1 : ℕ) := by positivity
  have within : 2 * Real.pi * (1 : ℕ) / (size - 1 : ℕ) ≤ Real.pi := by
    rw [div_le_iff₀ (by linarith), Nat.cast_one, mul_one, mul_comm]
    exact mul_le_mul_of_nonneg_left steps Real.pi_pos.le
  have below := Real.cos_lt_cos_of_nonneg_of_le_pi (le_refl 0) within turns
  rw [Real.cos_zero] at below
  rw [hannWeight_eq]
  linarith

private theorem hannWeight_two (index : Nat) (within : index < 2) :
    (hannWeight 2 index : ℝ) = 0 := by
  rw [hannWeight_eq]
  obtain rfl | rfl : index = 0 ∨ index = 1 := by omega
  · simp
  · simp

theorem power_hann_pos_iff (size : Nat) :
    0 < (power (hann size) : ℝ) ↔ size ≠ 0 ∧ size ≠ 2 := by
  rw [power_pos_iff]
  constructor
  · rintro ⟨weight, member, nonzero⟩
    refine ⟨?_, ?_⟩
    · rintro rfl
      simp [hann] at member
    · rintro rfl
      rw [hann, if_neg (by omega)] at member
      obtain ⟨index, rfl⟩ := Array.mem_ofFn.mp member
      exact nonzero (hannWeight_two index index.isLt)
  · rintro ⟨nonempty, short⟩
    by_cases single : size = 1
    · subst single
      exact ⟨1, by simp [hann], one_ne_zero⟩
    · have long : 3 ≤ size := by omega
      refine ⟨hannWeight size 1, ?_, (hannWeight_one_pos long).ne'⟩
      rw [hann, if_neg single]
      exact Array.mem_ofFn.mpr ⟨⟨1, by omega⟩, rfl⟩

open Extended

private theorem hannWeight_finite {size : Nat} (long : 1 < size) (index : Nat) :
    (hannWeight size index : Extended) = finite (hannWeight size index) := by
  have steps : ((size - 1 : ℕ) : ℝ) ≠ 0 := Nat.cast_ne_zero.mpr (by omega)
  have two_ne : (1 + 1 : ℝ) ≠ 0 := by norm_num
  have half_eq : (half : Extended) = finite half := finite_div 1 two_ne
  have turn : (two * Scalar.pi * ofCount index / ofCount (size - 1) : Extended) =
      finite (two * Scalar.pi * ofCount index / ofCount (size - 1)) := finite_div _ steps
  unfold hannWeight
  rw [half_eq, turn]
  exact finite_sub _ _

theorem hann_finite (size : Nat) :
    (hann size : Array Extended) = (hann size : Array ℝ).map finite := by
  unfold hann
  split_ifs with single
  · rw [List.map_toArray]
    rfl
  · rw [Array.map_ofFn]
    refine congrArg Array.ofFn (funext fun index => hannWeight_finite ?_ index)
    have := index.isLt
    omega

theorem power_finite (window : Array ℝ) : power (window.map finite) = finite (power window) := by
  have empty_eq : (window.map finite).isEmpty = window.isEmpty := by simp [Array.isEmpty]
  unfold power
  rw [empty_eq, Array.foldl_map, Array.size_map]
  split_ifs with empty
  · rfl
  · have total : window.foldl (fun total weight => total + finite weight * finite weight) 0 =
        finite (window.foldl (fun total weight => total + weight * weight) 0) :=
      Array.foldl_hom finite fun _ _ => rfl
    have count : ((window.size : ℕ) : ℝ) ≠ 0 := by
      rw [Array.isEmpty_iff_size_eq_zero] at empty
      exact Nat.cast_ne_zero.mpr empty
    rw [total]
    exact finite_div _ count

end Window

end LoopbackCalibration
