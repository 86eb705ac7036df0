import Mathlib.Algebra.Order.Group.Nat
import Mathlib.Tactic.SplitIfs
import LoopbackCalibration.Scalar.Binary64

/-! # Rounding to nearest

A quotient of counts, rounded to nearest, lies at or just above its whole part, and grows with its
numerator. A count that is rounded to so many digits keeps its leading place, or is carried into the
next one, so it grows with the count as well (`roundCount_mono`).

The sum of two doubles is found exactly and then rounded: its significand is shifted digit by digit,
and two further bits record what was shifted out. These two bits are enough to round the quotient
by the power of two (`Binary64.Shifted.roundedMantissa`).
-/

namespace LoopbackCalibration

section Quotients

variable {numerator larger denominator : ℕ}

theorem div_le_roundQuotient (numerator denominator : ℕ) :
    numerator / denominator ≤ roundQuotient numerator denominator := by
  unfold roundQuotient
  dsimp only
  split_ifs <;> omega

theorem roundQuotient_le_succ (numerator denominator : ℕ) :
    roundQuotient numerator denominator ≤ numerator / denominator + 1 := by
  unfold roundQuotient
  dsimp only
  split_ifs <;> omega

theorem roundQuotient_mono (below : numerator ≤ larger) (denominator : ℕ) :
    roundQuotient numerator denominator ≤ roundQuotient larger denominator := by
  have whole : numerator / denominator ≤ larger / denominator := Nat.div_le_div_right below
  rcases whole.lt_or_eq with less | same
  · exact (roundQuotient_le_succ numerator denominator).trans
      (less.trans_le (div_le_roundQuotient larger denominator))
  · have parts := Nat.div_add_mod numerator denominator
    have parts' := Nat.div_add_mod larger denominator
    rw [same] at parts
    unfold roundQuotient
    dsimp only
    rw [same]
    split_ifs <;> omega

/-- A whole quotient is left as it is. -/
theorem roundQuotient_mul (whole : ℕ) (positive : 0 < denominator) :
    roundQuotient (whole * denominator) denominator = whole := by
  unfold roundQuotient
  rw [Nat.mul_div_cancel _ positive, Nat.mul_mod_left]
  exact if_neg (by omega)

theorem roundQuotient_le {whole : ℕ} (positive : 0 < denominator)
    (within : numerator ≤ whole * denominator) : roundQuotient numerator denominator ≤ whole := by
  rw [← roundQuotient_mul whole positive]
  exact roundQuotient_mono within denominator

theorem le_roundQuotient {whole : ℕ} (positive : 0 < denominator)
    (within : whole * denominator ≤ numerator) : whole ≤ roundQuotient numerator denominator := by
  rw [← roundQuotient_mul whole positive]
  exact roundQuotient_mono within denominator

theorem roundQuotient_mul_mul {factor : ℕ} (positive : 0 < factor) :
    roundQuotient (numerator * factor) (denominator * factor) =
      roundQuotient numerator denominator := by
  simp only [roundQuotient, Nat.mul_div_mul_right _ _ positive, Nat.mul_mod_mul_right, ← mul_assoc,
    Nat.mul_lt_mul_right positive, Nat.mul_left_inj positive.ne']

end Quotients

section Counts

variable {digits count larger place : ℕ}

@[simp]
theorem roundCount_zero (digits : ℕ) : roundCount digits 0 = 0 := by
  simp [roundCount, roundQuotient]

/-- At most, rounding carries a count into the next place. -/
theorem roundCount_le (digits count : ℕ) : roundCount digits count ≤ 2 ^ (count.log2 + 1) := by
  have next := pow_sub_mul_pow 2 (Nat.sub_le (count.log2 + 1) digits)
  refine (Nat.mul_le_mul_right _ (roundQuotient_le (Nat.two_pow_pos _) ?_)).trans_eq next
  exact Nat.lt_log2_self.le.trans_eq next.symm

/-- Rounding to one digit or more keeps the leading place of a count. -/
theorem le_roundCount (positive : 0 < digits) (nonzero : count ≠ 0) :
    2 ^ count.log2 ≤ roundCount digits count := by
  have leading := pow_sub_mul_pow 2 (show count.log2 + 1 - digits ≤ count.log2 by omega)
  refine leading.symm.trans_le (Nat.mul_le_mul_right _ (le_roundQuotient (Nat.two_pow_pos _) ?_))
  exact leading.trans_le (Nat.log2_self_le nonzero)

theorem log2_mul_two_pow (nonzero : count ≠ 0) (place : ℕ) :
    (count * 2 ^ place).log2 = count.log2 + place := by
  have positive : 0 < 2 ^ place := Nat.two_pow_pos place
  rw [Nat.log2_eq_iff (Nat.mul_ne_zero nonzero positive.ne')]
  constructor
  · rw [pow_add]
    exact Nat.mul_le_mul_right _ (Nat.log2_self_le nonzero)
  · rw [Nat.add_right_comm, pow_add]
    exact Nat.mul_lt_mul_of_pos_right Nat.lt_log2_self positive

/-- A count of so few digits is left as it is, and so are its multiples by powers of two. -/
theorem roundCount_mul_two_pow (few : count.log2 < digits) (place : ℕ) :
    roundCount digits (count * 2 ^ place) = count * 2 ^ place := by
  rcases eq_or_ne count 0 with rfl | nonzero
  · simp
  · have log_eq := log2_mul_two_pow nonzero place
    have multiple := pow_sub_mul_pow 2 (show (count * 2 ^ place).log2 + 1 - digits ≤ place by omega)
    unfold roundCount
    dsimp only
    generalize (count * 2 ^ place).log2 + 1 - digits = unit at multiple ⊢
    rw [← multiple, ← mul_assoc, roundQuotient_mul _ (Nat.two_pow_pos unit)]

theorem roundCount_mono (positive : 0 < digits) (below : count ≤ larger) :
    roundCount digits count ≤ roundCount digits larger := by
  rcases eq_or_ne count 0 with rfl | nonzero
  · simp
  · have leading : count.log2 ≤ larger.log2 :=
      (Nat.le_log2 (by omega)).mpr ((Nat.log2_self_le nonzero).trans below)
    rcases (Nat.sub_le_sub_right (Nat.succ_le_succ leading) digits).eq_or_lt with same | finer
    · unfold roundCount
      dsimp only
      rw [same]
      exact Nat.mul_le_mul_right _ (roundQuotient_mono below _)
    · -- with a finer unit the count lies below the leading place of the larger one
      have next : count.log2 + 1 ≤ larger.log2 := by omega
      calc roundCount digits count ≤ 2 ^ (count.log2 + 1) := roundCount_le digits count
        _ ≤ 2 ^ larger.log2 := Nat.pow_le_pow_right Nat.two_pos next
        _ ≤ roundCount digits larger := le_roundCount positive (by omega)

/-- Rounding of what may be negative, which goes by the size alone. -/
def roundSigned (digits : ℕ) (value : ℤ) : ℤ :=
  value.sign * roundCount digits value.natAbs

@[simp]
theorem roundSigned_natCast (digits count : ℕ) :
    roundSigned digits count = roundCount digits count := by
  unfold roundSigned
  rcases eq_or_ne count 0 with rfl | nonzero
  · simp
  · rw [Int.sign_natCast_of_ne_zero nonzero, Int.one_mul, Int.natAbs_natCast]

@[simp]
theorem roundSigned_neg (digits : ℕ) (value : ℤ) :
    roundSigned digits (-value) = -roundSigned digits value := by
  rw [roundSigned, Int.sign_neg, Int.natAbs_neg, Int.neg_mul, roundSigned]

theorem roundSigned_mono {value other : ℤ} (positive : 0 < digits) (below : value ≤ other) :
    roundSigned digits value ≤ roundSigned digits other := by
  obtain ⟨count, rfl | rfl⟩ := value.eq_nat_or_neg <;>
    obtain ⟨larger, rfl | rfl⟩ := other.eq_nat_or_neg <;>
    simp only [roundSigned_natCast, roundSigned_neg]
  · exact_mod_cast roundCount_mono positive (by omega)
  · obtain ⟨rfl, rfl⟩ : count = 0 ∧ larger = 0 := by omega
    simp
  · omega
  · have := roundCount_mono positive (show larger ≤ count by omega)
    omega

end Counts

namespace Binary64

open Float.Model UnpackedFloat

/-- A number without its last bits, with the first one of these, and with whether any further one
is set. -/
structure Shifted (number bits : ℕ) (held : ExtendedMantissa) : Prop where
  mantissa_eq : held.mantissa = number / 2 ^ bits
  roundBit_iff : held.roundBit ↔ 2 ^ bits ≤ 2 * (number % 2 ^ bits)
  stickyBit_iff : held.stickyBit ↔ number % 2 ^ bits ≠ 0 ∧ 2 * (number % 2 ^ bits) ≠ 2 ^ bits

theorem shifted_exact (number : ℕ) : Shifted number 0 (.ofMantissaAndAccuracy number .exact) where
  mantissa_eq := (Nat.div_one number).symm
  roundBit_iff := by simp [ExtendedMantissa.ofMantissaAndAccuracy, Nat.mod_one]
  stickyBit_iff := by simp [ExtendedMantissa.ofMantissaAndAccuracy, Nat.mod_one]

namespace Shifted

variable {number bits : ℕ} {held : ExtendedMantissa}

theorem shiftRightOne (shifted : Shifted number bits held) :
    Shifted number (bits + 1) held.shiftRightOne := by
  have within : number % 2 ^ bits < 2 ^ bits := Nat.mod_lt _ (Nat.two_pow_pos bits)
  have rest : number % 2 ^ (bits + 1) =
      number % 2 ^ bits + 2 ^ bits * (number / 2 ^ bits % 2) := Nat.mod_pow_succ
  refine ⟨?_, ?_, ?_⟩
  · rw [ExtendedMantissa.shiftRightOne, shifted.mantissa_eq, Nat.div_div_eq_div_mul, pow_succ]
  · rw [ExtendedMantissa.shiftRightOne, shifted.mantissa_eq, rest, pow_succ', bne_iff_ne]
    rcases Nat.mod_two_eq_zero_or_one (number / 2 ^ bits) with even | odd
    · rw [even]; omega
    · rw [odd]; omega
  · rw [ExtendedMantissa.shiftRightOne, Bool.or_eq_true, shifted.roundBit_iff,
      shifted.stickyBit_iff, rest, pow_succ']
    rcases Nat.mod_two_eq_zero_or_one (number / 2 ^ bits) with even | odd
    · rw [even]; omega
    · rw [odd]; omega

/-- The two bits that a number is held with suffice to round it to nearest. -/
theorem roundedMantissa (shifted : Shifted number bits held) :
    held.roundedMantissa = roundQuotient number (2 ^ bits) := by
  obtain ⟨mantissa, roundBit, stickyBit⟩ := held
  obtain ⟨mantissa_eq, round, sticky⟩ := shifted
  dsimp only at mantissa_eq round sticky
  subst mantissa_eq
  unfold ExtendedMantissa.roundedMantissa roundQuotient
  cases roundBit <;> cases stickyBit <;>
    simp only [Bool.false_eq_true, false_iff, true_iff] at round sticky <;>
    dsimp only [ExtendedMantissa.accuracy, Accuracy.roundToNearestEven] <;> split_ifs <;> omega

end Shifted

theorem shifted_shiftRight (number bits : ℕ) :
    Shifted number bits (ExtendedMantissa.ofMantissaAndAccuracy number .exact >>> bits) := by
  change Shifted number bits (bits.repeat ExtendedMantissa.shiftRightOne _)
  induction bits with
  | zero => exact shifted_exact number
  | succ bits ih => exact ih.shiftRightOne

end Binary64

end LoopbackCalibration
