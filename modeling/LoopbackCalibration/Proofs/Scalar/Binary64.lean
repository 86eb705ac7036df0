import Mathlib.Data.Prod.Lex
import Mathlib.Order.Compare
import LoopbackCalibration.Proofs.Scalar.Order
import LoopbackCalibration.Scalar.Binary64

/-! # The order of doubles

Doubles compare by sign, exponent and significand, with the infinities at the two ends
and with both zeros equal. A double that is not a number compares with nothing. This is
the order that the search for the lowest level needs (`Arithmetic.Total`).
-/

namespace LoopbackCalibration

namespace Binary64

open Float.Model

/-- What doubles are compared by: a rank for the sign and the kind of the double, then the
exponent, then the significand, both reversed below zero. -/
def key : UnpackedFloat → ℤ ×ₗ ℤ ×ₗ ℤ
  | .infinity .positive => toLex (2, toLex (0, 0))
  | .finite .positive significand exponent _ => toLex (1, toLex (exponent, significand))
  | .zero _ | .notANumber => toLex (0, toLex (0, 0))
  | .finite .negative significand exponent _ => toLex (-1, toLex (-exponent, -significand))
  | .infinity .negative => toLex (-2, toLex (0, 0))

/-- Strict comparison of numbers is that of their keys. -/
theorem lt_iff (first second : UnpackedFloat) :
    first.lt second ↔ first.isNaN = false ∧ second.isNaN = false ∧ key first < key second := by
  rcases first with (_ | _) | _ | _ | ⟨(_ | _), _, _, _⟩ <;>
    rcases second with (_ | _) | _ | _ | ⟨(_ | _), _, _, _⟩ <;>
    dsimp only [UnpackedFloat.lt, UnpackedFloat.compare, UnpackedFloat.isNaN, key] <;>
    simp [Prod.Lex.toLex_lt_toLex, Ordering.then_eq_lt, Ordering.then_eq_gt,
      compare_lt_iff_lt, compare_gt_iff_gt]
  · rfl

/-- The counterpart of `Ordering.isLE_then_iff_or`. -/
private theorem isGE_then_iff_or : ∀ {major minor : Ordering},
    (major.then minor).isGE ↔ major = .gt ∨ major = .eq ∧ minor.isGE := by
  decide

/-- Weak comparison of numbers is that of their keys. -/
theorem le_iff (first second : UnpackedFloat) :
    first.le second ↔ first.isNaN = false ∧ second.isNaN = false ∧ key first ≤ key second := by
  rcases first with (_ | _) | _ | _ | ⟨(_ | _), _, _, _⟩ <;>
    rcases second with (_ | _) | _ | _ | ⟨(_ | _), _, _, _⟩ <;>
    dsimp only [UnpackedFloat.le, UnpackedFloat.compare, UnpackedFloat.isNaN, key] <;>
    simp [Prod.Lex.toLex_le_toLex, Ordering.isLE_then_iff_or, isGE_then_iff_or,
      compare_lt_iff_lt, compare_gt_iff_gt, Nat.isLE_compare, Nat.isGE_compare]
  all_goals rfl

/-- A double is at most itself exactly when it is a number. -/
theorem le_self_iff (value : UnpackedFloat) : value.le value ↔ value.isNaN = false := by
  rcases value with (_ | _) | _ | _ | ⟨(_ | _), _, _, _⟩ <;>
    dsimp only [UnpackedFloat.le, UnpackedFloat.compare, UnpackedFloat.isNaN] <;> simp
  all_goals rfl

/-- Nothing compares above infinity. -/
theorem key_le_infinity (value : UnpackedFloat) : key value ≤ key (.infinity .positive) := by
  rcases value with (_ | _) | _ | _ | ⟨(_ | _), _, _, _⟩ <;>
    dsimp only [key] <;> simp [Prod.Lex.toLex_le_toLex]

theorem unpack_infinity : infinity.toModel.unpack = .infinity .positive := by
  rfl

/-- What a double is compared by. -/
def rank (value : Float) : ℤ ×ₗ ℤ ×ₗ ℤ :=
  key value.toModel.unpack

theorem isNumber_iff {value : Float} : Arithmetic.isNumber value ↔ value.isNaN = false :=
  decide_eq_true_iff.trans (decide_eq_true_iff.trans (le_self_iff _))

theorem lt_iff_rank_lt {first second : Float} :
    first < second ↔
      Arithmetic.isNumber first ∧ Arithmetic.isNumber second ∧ rank first < rank second := by
  rw [isNumber_iff, isNumber_iff]
  exact decide_eq_true_iff.trans (lt_iff _ _)

theorem le_iff_rank_le {first second : Float} :
    first ≤ second ↔
      Arithmetic.isNumber first ∧ Arithmetic.isNumber second ∧ rank first ≤ rank second := by
  rw [isNumber_iff, isNumber_iff]
  exact decide_eq_true_iff.trans (le_iff _ _)

theorem isNumber_infinity : Arithmetic.isNumber infinity :=
  isNumber_iff.mpr (congrArg UnpackedFloat.isNaN unpack_infinity)

theorem rank_le_infinity (value : Float) : rank value ≤ rank infinity := by
  rw [rank, rank, unpack_infinity]
  exact key_le_infinity _

theorem belowInfinity_iff {value : Float} :
    Arithmetic.belowInfinity value ↔ Arithmetic.isNumber value ∧ rank value < rank infinity := by
  refine decide_eq_true_iff.trans (lt_iff_rank_lt.trans ?_)
  simp [isNumber_infinity]

theorem unpack_zero : (0 : Float).toModel.unpack = .zero .positive := by
  rfl

theorem le_zero_eq_false {value : UnpackedFloat} {sign : UnpackedFloat.Sign}
    (positive : (UnpackedFloat.zero sign).lt value) : value.le (.zero sign) = false := by
  rcases value with (_ | _) | _ | _ | ⟨(_ | _), _, _, _⟩ <;> first | rfl | cases positive

/-- A positive double is not zero or less. -/
theorem not_nonpositive {value : Float} (positive : 0 < value) : ¬value ≤ 0 := by
  have below : (UnpackedFloat.zero .positive).lt value.toModel.unpack := by
    rw [← unpack_zero]
    exact decide_eq_true_iff.mp positive
  intro nonpositive
  have least : value.toModel.unpack.le (.zero .positive) := by
    rw [← unpack_zero]
    exact decide_eq_true_iff.mp nonpositive
  rw [le_zero_eq_false below] at least
  exact Bool.noConfusion least

end Binary64

open Binary64 in
/-- Doubles that are numbers are totally ordered. -/
instance : Arithmetic.Total Float :=
  .of_rank lt_iff_rank_lt le_iff_rank_le rank_le_infinity belowInfinity_iff

/-- The positive doubles are the numbers that are not zero or less. -/
theorem Binary64.pos_iff {value : Float} : 0 < value ↔ Arithmetic.isNumber value ∧ ¬value ≤ 0 := by
  refine ⟨fun positive => ⟨Arithmetic.Total.isNumber_of_lt positive, not_nonpositive positive⟩, ?_⟩
  rintro ⟨number, above⟩
  have zero : Arithmetic.isNumber (0 : Float) := isNumber_iff.mpr (congrArg _ unpack_zero)
  exact by_contra fun low => above (Arithmetic.Total.le_iff.mpr ⟨number, zero, low⟩)

end LoopbackCalibration
