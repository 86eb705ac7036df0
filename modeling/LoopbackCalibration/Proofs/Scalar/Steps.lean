import Mathlib
import LoopbackCalibration.Proofs.Scalar.Rounding

/-! # Steps of doubles

Every finite double is a whole number of steps, of which the smallest one is a single step. A
significand and an exponent stand for their steps as doubles have them if the significand fills its
digits (`Binary64.Fills`), and then the exponents decide which of two is larger. In steps, small and
ordinary doubles round alike: the sum of two finite doubles has the nearest number of steps to the
exact one that has the digits of a double (`Binary64.rounds_add`).
-/

namespace LoopbackCalibration

namespace Binary64

open Float.Model UnpackedFloat

/-- The significand fills its digits, unless the exponent is the least one. -/
structure Fills (significand : ℕ) (exponent : ℤ) : Prop where
  least : -1074 ≤ exponent
  within : significand < 2 ^ 53
  full : 2 ^ 52 ≤ significand ∨ exponent = -1074

/-- A significand with an exponent as a number of steps, of which the smallest double is one. -/
def steps (significand : ℕ) (exponent : ℤ) : ℕ :=
  significand * 2 ^ (exponent + 1074).toNat

/-- The significand of a finite number fills its digits. -/
def Canonical : UnpackedFloat → Prop
  | .finite _ significand exponent _ => Fills significand exponent
  | _ => True

/-- The steps of a finite number, with its sign. -/
def count : UnpackedFloat → ℤ
  | .finite sign significand exponent _ => sign.apply (steps significand exponent)
  | _ => 0

variable {significand larger : ℕ} {exponent higher : ℤ}

section Order

theorem steps_pos (positive : 0 < significand) (exponent : ℤ) : 0 < steps significand exponent :=
  Nat.mul_pos positive (Nat.two_pow_pos _)

/-- A significand with further digits counts as many steps as one with a higher exponent. -/
theorem steps_mul_two_pow (significand : ℕ) (least : -1074 ≤ exponent) (places : ℕ) :
    steps (significand * 2 ^ places) exponent = steps significand (exponent + places) := by
  have place : (exponent + places + 1074).toNat = places + (exponent + 1074).toNat := by omega
  rw [steps, steps, place, pow_add, mul_assoc]

/-- Among numbers that fill their digits, one with a higher exponent is larger. -/
theorem Fills.steps_lt (fills : Fills significand exponent) (fills' : Fills larger higher)
    (below : exponent < higher) :
    steps significand exponent < steps larger higher := by
  have least := fills.least
  have full : 2 ^ 52 ≤ larger := fills'.full.resolve_right (by omega)
  have next : (exponent + 1 + 1074).toNat ≤ (higher + 1074).toNat := by omega
  calc steps significand exponent
      < steps (2 ^ 52 * 2 ^ 1) exponent :=
        Nat.mul_lt_mul_of_pos_right fills.within (Nat.two_pow_pos _)
    _ = steps (2 ^ 52) (exponent + 1) := steps_mul_two_pow _ least 1
    _ ≤ steps larger higher := Nat.mul_le_mul full (Nat.pow_le_pow_right Nat.two_pos next)

/-- Numbers that fill their digits compare by their exponents first. -/
theorem Fills.steps_lt_iff (fills : Fills significand exponent) (fills' : Fills larger higher) :
    steps significand exponent < steps larger higher ↔
      exponent < higher ∨ exponent = higher ∧ significand < larger := by
  rcases lt_trichotomy exponent higher with below | rfl | above
  · simp [below, fills.steps_lt fills' below]
  · simp [steps]
  · simp [above.not_gt, above.ne', (fills'.steps_lt fills above).not_gt]

end Order

section Rounding

theorem log2_steps (nonzero : significand ≠ 0) :
    (steps significand exponent).log2 = significand.log2 + (exponent + 1074).toNat :=
  log2_mul_two_pow nonzero _

/-- A number that fills its digits is its own rounding. -/
theorem Fills.roundCount_steps (fills : Fills significand exponent) :
    roundCount 53 (steps significand exponent) = steps significand exponent := by
  rcases eq_or_ne significand 0 with rfl | nonzero
  · simp [steps]
  · exact roundCount_mul_two_pow ((Nat.log2_lt nonzero).mpr fills.within) _

theorem targetExponent_totalExponent (significand : ℕ) (exponent : ℤ) :
    Format.binary64.targetExponent (totalExponent significand exponent) =
      max (significand.log2 + exponent - 52) (-1074) := by
  unfold Format.targetExponent totalExponent
  congr 1
  change (significand.log2 : ℤ) + 1 + exponent - 53 = _
  omega

theorem shiftToTargetExponent_eq (places : ℕ) {target : ℤ}
    (aims : max (significand.log2 + exponent - 52) (-1074) = target)
    (place : exponent + places = target) :
    shiftToTargetExponent .binary64 significand exponent .exact =
      (ExtendedMantissa.ofMantissaAndAccuracy significand .exact >>> places, target) := by
  have amount : (target - exponent).toNat = places := by omega
  unfold shiftToTargetExponent shiftToExponent
  rw [targetExponent_totalExponent, aims]
  dsimp only
  rw [amount, place]

/-- A significand that was carried beyond its digits is brought back within them. -/
theorem exists_carried (positive : 0 < significand) (least : -1074 ≤ exponent)
    (within : significand ≤ 2 ^ 53) (full : 2 ^ 52 ≤ significand ∨ exponent = -1074) :
    ∃ held place, shiftToTargetExponent .binary64 significand exponent .exact = (held, place) ∧
      0 < held.mantissa ∧ Fills held.mantissa place ∧
      steps held.mantissa place = steps significand exponent := by
  rcases within.lt_or_eq with less | rfl
  · have log_lt : significand.log2 < 53 := (Nat.log2_lt positive.ne').mpr less
    have log_le := full.imp_left (Nat.le_log2 positive.ne').mpr
    refine ⟨_, exponent, shiftToTargetExponent_eq 0 (by omega) (by omega), ?_⟩
    rw [(shifted_shiftRight significand 0).mantissa_eq, pow_zero, Nat.div_one]
    exact ⟨positive, ⟨least, less, full⟩, rfl⟩
  · have log_eq : (2 ^ 53).log2 = 53 := Nat.log2_two_pow
    refine ⟨_, exponent + 1, shiftToTargetExponent_eq 1 (by omega) (by omega), ?_⟩
    rw [(shifted_shiftRight (2 ^ 53) 1).mantissa_eq]
    exact ⟨by decide, ⟨by omega, by decide, .inl (by decide)⟩, (steps_mul_two_pow _ least 1).symm⟩

/-- Rounding at the exponent that it aims at rounds a number to the digits of a double. -/
theorem steps_roundQuotient (nonzero : significand ≠ 0) (least : -1074 ≤ exponent) {places : ℕ}
    {target : ℤ} (aims : max (significand.log2 + exponent - 52) (-1074) = target)
    (place : exponent + places = target) :
    steps (roundQuotient significand (2 ^ places)) target =
      roundCount 53 (steps significand exponent) := by
  have units : (target + 1074).toNat = places + (exponent + 1074).toNat := by omega
  have unit_eq : (steps significand exponent).log2 + 1 - 53 = (target + 1074).toNat := by
    rw [log2_steps nonzero]
    omega
  unfold roundCount
  dsimp only
  rw [unit_eq, units, pow_add]
  unfold steps
  rw [roundQuotient_mul_mul (Nat.two_pow_pos _), units, pow_add]

/-- A finite number, of any exponent, that an exact number of steps is rounded to. -/
structure Rounds (exact : ℤ) (number : UnpackedFloat) : Prop where
  finite : number.isFinite
  canonical : Canonical number
  count_eq : count number = roundSigned 53 exact

/-- A number whose exponent is not above the one it aims at is rounded to a canonical one. -/
theorem rounds_roundWithAccuracy (nonzero : significand ≠ 0) (least : -1074 ≤ exponent)
    (places : ℕ) {target : ℤ} (aims : max (significand.log2 + exponent - 52) (-1074) = target)
    (place : exponent + places = target) (sign : Sign) :
    Rounds (sign.apply (steps significand exponent))
      (roundWithAccuracy .binary64 sign significand exponent .exact) := by
  have upper : significand < 2 ^ (53 + places) := (Nat.log2_lt nonzero).mp (by omega)
  have within : roundQuotient significand (2 ^ places) ≤ 2 ^ 53 :=
    roundQuotient_le (Nat.two_pow_pos places) (upper.le.trans_eq (pow_add 2 53 places))
  have keeps : ∀ kept, kept + places ≤ significand.log2 →
      2 ^ kept ≤ roundQuotient significand (2 ^ places) := fun kept lower =>
    le_roundQuotient (Nat.two_pow_pos places) ((pow_add 2 kept places).symm.trans_le
      ((Nat.le_log2 nonzero).mp lower))
  have full : 2 ^ 52 ≤ roundQuotient significand (2 ^ places) ∨ target = -1074 :=
    or_iff_not_imp_right.mpr fun above => keeps 52 (by omega)
  obtain ⟨held, place', carried, positive, canonical, steps_eq⟩ :=
    exists_carried (keeps 0 (by omega)) (by omega) within full
  rw [steps_roundQuotient nonzero least aims place] at steps_eq
  have rounded : roundWithAccuracy .binary64 sign significand exponent .exact =
      .finite sign held.mantissa place' positive := by
    unfold roundWithAccuracy
    rw [shiftToTargetExponent_eq places aims place]
    dsimp only
    rw [(shifted_shiftRight significand places).roundedMantissa, carried]
    exact dif_neg positive.ne'
  rw [rounded]
  refine ⟨rfl, canonical, ?_⟩
  cases sign <;> simp [count, Sign.apply, steps_eq]

/-- Rounding goes to the nearest number with the digits of a double. -/
theorem rounds_round (nonzero : significand ≠ 0) (least : -1074 ≤ exponent) (sign : Sign) :
    Rounds (sign.apply (steps significand exponent))
      (UnpackedFloat.round .binary64 sign significand exponent) := by
  unfold UnpackedFloat.round decreaseExponent
  rw [targetExponent_totalExponent]
  dsimp only
  rw [Nat.shiftLeft_eq]
  generalize aims : max (significand.log2 + exponent - 52) (-1074) = target
  have nonzero' : significand * 2 ^ (exponent - target).toNat ≠ 0 :=
    Nat.mul_ne_zero nonzero (Nat.two_pow_pos _).ne'
  have aligned := log2_mul_two_pow nonzero (exponent - target).toNat
  have same : steps (significand * 2 ^ (exponent - target).toNat)
      (exponent - (exponent - target).toNat) = steps significand exponent := by
    rw [steps_mul_two_pow _ (by omega), sub_add_cancel]
  rw [← same]
  exact rounds_roundWithAccuracy nonzero' (by omega) (target - exponent).toNat
    (show _ = target by omega) (by omega) sign

/-- A signed count of so many steps is rounded to a double. -/
theorem rounds_normalize (value : ℤ) (least : -1074 ≤ exponent) (sign : Sign) :
    Rounds (value * 2 ^ (exponent + 1074).toNat)
      (UnpackedFloat.normalize .binary64 value exponent sign) := by
  have rounds : ∀ (sign : Sign) (size : ℕ), size ≠ 0 → value = sign.apply size →
      Rounds (value * 2 ^ (exponent + 1074).toNat)
        (UnpackedFloat.round .binary64 sign size exponent) := by
    rintro sign size nonzero rfl
    have scaled : sign.apply size * 2 ^ (exponent + 1074).toNat =
        sign.apply (steps size exponent) := by
      cases sign <;> simp [Sign.apply, steps]
    rw [scaled]
    exact rounds_round nonzero least sign
  unfold UnpackedFloat.normalize
  rcases lt_trichotomy value 0 with negative | rfl | positive
  · rw [Int.compare_eq_lt.mpr negative]
    exact rounds .negative _ (by omega) (by simp [Sign.apply]; omega)
  · exact ⟨rfl, trivial, by simp [count, roundSigned]⟩
  · rw [Int.compare_eq_gt.mpr positive]
    exact rounds .positive _ (by omega) (by simp [Sign.apply]; omega)

theorem rounds_count {number : UnpackedFloat} (finite : number.isFinite)
    (canonical : Canonical number) : Rounds (count number) number := by
  refine ⟨finite, canonical, ?_⟩
  rcases number with _ | _ | _ | ⟨_ | _, significand, exponent, _⟩
  · exact (roundSigned_natCast 53 0).symm
  · exact (roundSigned_natCast 53 0).symm
  · exact (roundSigned_natCast 53 0).symm
  · rw [count, Sign.apply, roundSigned_neg, roundSigned_natCast, Fills.roundCount_steps canonical]
  · rw [count, Sign.apply, roundSigned_natCast, Fills.roundCount_steps canonical]

/-- A significand that is shifted to a lower exponent counts as many steps. -/
theorem apply_decreased (significand : ℕ) {low : ℤ} (least : -1074 ≤ low) (above : low ≤ exponent)
    (sign : Sign) :
    sign.apply (significand <<< (exponent - low).toNat : ℕ) * 2 ^ (low + 1074).toNat =
      sign.apply (steps significand exponent) := by
  have shifted := steps_mul_two_pow significand least (exponent - low).toNat
  rw [Int.toNat_of_nonneg (sub_nonneg.mpr above), add_sub_cancel] at shifted
  rw [← shifted, Nat.shiftLeft_eq]
  cases sign <;> simp [Sign.apply, steps]

/-- The sum of two finite numbers is rounded from the exact one. -/
theorem rounds_add {left right : UnpackedFloat} (finite : left.isFinite) (finite' : right.isFinite)
    (canonical : Canonical left) (canonical' : Canonical right) :
    Rounds (count left + count right) (UnpackedFloat.add .binary64 left right) := by
  cases left with
  | infinity | notANumber => cases finite
  | zero sign =>
      have rounds : Rounds (0 + count right) right := by
        rw [zero_add]
        exact rounds_count finite' canonical'
      cases right with
      | infinity | notANumber => cases finite'
      | zero sign' => cases sign <;> cases sign' <;> exact ⟨rfl, trivial, rfl⟩
      | finite => exact rounds
  | finite sign significand exponent positive =>
      cases right with
      | infinity | notANumber => cases finite'
      | zero sign' =>
        change Rounds (count _ + 0) _
        rw [add_zero]
        exact rounds_count rfl canonical
      | finite sign' significand' exponent' positive' =>
        have least : -1074 ≤ min exponent exponent' := le_min canonical.least canonical'.least
        have aligned := apply_decreased significand least
          (min_le_left exponent exponent') sign
        have aligned' := apply_decreased significand' least
          (min_le_right exponent exponent') sign'
        change Rounds (sign.apply (steps significand exponent) +
          sign'.apply (steps significand' exponent')) _
        rw [← aligned, ← aligned', ← add_mul]
        exact rounds_normalize _ least _

end Rounding

end Binary64

end LoopbackCalibration
