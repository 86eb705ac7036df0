import Mathlib.Data.EReal.Basic
import LoopbackCalibration.Proofs.Scalar.Real
import LoopbackCalibration.Proofs.Scalar.Special

/-! # Extended scalars

The exact scalars with both infinities and with what is not a number. Arithmetic on the
finite ones is exact; on the others it is that of floating point, with one zero.
-/

namespace LoopbackCalibration

/-- A real number, an infinity, or no number. -/
inductive Extended where
  /-- No number. -/
  | nan
  /-- An infinity of the given sign. -/
  | infinite (negative : Bool)
  /-- A real number. -/
  | finite (value : ℝ)

namespace Extended

open scoped Classical

/-- Sum; opposite infinities have none. -/
noncomputable def add : Extended → Extended → Extended
  | .nan, _ | _, .nan => .nan
  | .infinite first, .infinite second => if first = second then .infinite first else .nan
  | .infinite negative, .finite _ | .finite _, .infinite negative => .infinite negative
  | .finite first, .finite second => .finite (first + second)

/-- Opposite. -/
noncomputable def neg : Extended → Extended
  | .nan => .nan
  | .infinite negative => .infinite !negative
  | .finite value => .finite (-value)

/-- Product; an infinity times zero has none. -/
noncomputable def mul : Extended → Extended → Extended
  | .nan, _ | _, .nan => .nan
  | .infinite first, .infinite second => .infinite (first ^^ second)
  | .infinite negative, .finite value | .finite value, .infinite negative =>
    if value = 0 then .nan else .infinite (negative ^^ decide (value < 0))
  | .finite first, .finite second => .finite (first * second)

/-- Quotient; nothing divided by nothing and infinities divided by each other have none. -/
noncomputable def div : Extended → Extended → Extended
  | .nan, _ | _, .nan | .infinite _, .infinite _ => .nan
  | .infinite negative, .finite value => .infinite (negative ^^ decide (value < 0))
  | .finite _, .infinite _ => .finite 0
  | .finite first, .finite second =>
    if second = 0 then (if first = 0 then .nan else .infinite (decide (first < 0)))
    else .finite (first / second)

/-- Strict comparison. -/
def Below : Extended → Extended → Prop
  | .nan, _ | _, .nan => False
  | .infinite first, .infinite second => first = true ∧ second = false
  | .infinite negative, .finite _ => negative = true
  | .finite _, .infinite negative => negative = false
  | .finite first, .finite second => first < second

/-- Weak comparison. -/
def AtMost (first second : Extended) : Prop :=
  first.Below second ∨ first = second ∧ first ≠ .nan

/-- A real function of the finite scalars. -/
def lift (function : ℝ → ℝ) : Extended → Extended
  | .finite value => .finite (function value)
  | .nan | .infinite _ => .nan

/-- The coordinate that gives a point its direction: beside an infinity nothing finite
counts, and two infinities count the same. -/
noncomputable def direction : Extended → Extended → ℝ
  | .nan, _ | .finite _, .infinite _ => 0
  | .infinite negative, _ => if negative then -1 else 1
  | .finite value, _ => value

/-- Hypotenuse; an infinite leg wins over one that is not a number. -/
noncomputable def hypot : Extended → Extended → Extended
  | .infinite _, _ | _, .infinite _ => .infinite false
  | .nan, _ | _, .nan => .nan
  | .finite first, .finite second => .finite (Scalar.hypot first second)

/-- Square root, void below zero. -/
noncomputable def sqrt : Extended → Extended
  | .nan | .infinite true => .nan
  | .infinite false => .infinite false
  | .finite value => if value < 0 then .nan else .finite (Scalar.sqrt value)

/-- Logarithm to base ten, void below zero. -/
noncomputable def log10 : Extended → Extended
  | .nan | .infinite true => .nan
  | .infinite false => .infinite false
  | .finite value =>
    if value < 0 then .nan else if value = 0 then .infinite true else .finite (Scalar.log10 value)

/-- A power of a base above one, given by the powers with finite exponents. -/
def power (raise : ℝ → ℝ) : Extended → Extended
  | .nan => .nan
  | .infinite true => .finite 0
  | .infinite false => .infinite false
  | .finite value => .finite (raise value)

/-- Angle of the point whose ordinate comes first. -/
noncomputable def atan2 : Extended → Extended → Extended
  | .nan, _ | _, .nan => .nan
  | ordinate, abscissa =>
    .finite (Scalar.atan2 (ordinate.direction abscissa) (abscissa.direction ordinate))

/-- The whole part toward zero, within a signed 64-bit word. -/
noncomputable def truncate : Extended → Int
  | .nan => 0
  | .infinite true => -2 ^ 63
  | .infinite false => 2 ^ 63 - 1
  | .finite value => Arithmetic.truncate value

end Extended

open Extended in
open scoped Classical in
noncomputable instance : Scalar Extended where
  add := add
  neg := neg
  sub left right := add left (neg right)
  mul := mul
  div := div
  zero := .finite 0
  one := .finite 1
  lt := Below
  le := AtMost
  decideLt _ _ := inferInstance
  decideLe _ _ := inferInstance
  ofCount count := .finite count
  halvings count := .finite (Arithmetic.halvings count)
  truncate := truncate
  belowInfinity value := decide (Below value (.infinite false))
  stored value := value
  pi := .finite Scalar.pi
  sqrt := sqrt
  sin := lift Scalar.sin
  cos := lift Scalar.cos
  atan2 := atan2
  hypot := hypot
  exp2 := power Scalar.exp2
  exp10 := power Scalar.exp10
  log10 := log10

namespace Extended

open Arithmetic

theorem isNumber_iff {value : Extended} : isNumber value ↔ value ≠ nan := by
  refine decide_eq_true_iff.trans ⟨?_, fun number => .inr ⟨rfl, number⟩⟩
  rintro weak rfl
  exact weak.elim id fun equal => equal.2 rfl

@[simp] theorem isNumber_nan : isNumber nan = false := by
  simp [← Bool.not_eq_true, isNumber_iff]

@[simp] theorem isNumber_infinite (negative : Bool) : isNumber (infinite negative) = true := by
  simp [isNumber_iff]

@[simp] theorem isNumber_finite (value : ℝ) : isNumber (finite value) = true := by
  simp [isNumber_iff]

open scoped Classical in
theorem belowInfinity_finite (value : ℝ) : belowInfinity (finite value) = true :=
  decide_eq_true (p := Below (finite value) (infinite false)) rfl

@[simp] theorem isFinite_nan : isFinite nan = false :=
  isNumber_nan

@[simp] theorem isFinite_finite (value : ℝ) : isFinite (finite value) = true :=
  isNumber_finite _

theorem not_isFinite_infinite (negative : Bool) : ¬isFinite (infinite negative) := by
  have void : infinite negative - infinite negative = nan :=
    if_neg (Bool.not_ne_self negative).symm
  simp [Arithmetic.isFinite, void]

theorem isFinite_iff {value : Extended} : isFinite value ↔ ∃ real, value = finite real := by
  refine ⟨fun isFinite => ?_, fun ⟨real, value_eq⟩ => value_eq ▸ isFinite_finite real⟩
  cases value with
  | nan => simp at isFinite
  | infinite negative => exact absurd isFinite (not_isFinite_infinite negative)
  | finite real => exact ⟨real, rfl⟩

theorem ofCount_eq (count : Nat) : (ofCount count : Extended) = finite count := rfl

@[simp] theorem finite_sub (left right : ℝ) : finite left - finite right = finite (left - right) :=
  congrArg finite (sub_eq_add_neg left right).symm

theorem finite_div (left : ℝ) {right : ℝ} (nonzero : right ≠ 0) :
    finite left / finite right = finite (left / right) := if_neg nonzero

theorem infinite_add_self (negative : Bool) :
    infinite negative + infinite negative = infinite negative :=
  if_pos (rfl : negative = negative)

theorem infinite_div_ofCount (negative : Bool) (count : Nat) :
    infinite negative / ofCount count = infinite negative := by
  have positive : ¬(count : ℝ) < 0 := not_lt.mpr count.cast_nonneg
  change infinite (negative ^^ decide ((count : ℝ) < 0)) = _
  rw [decide_eq_false positive, Bool.xor_false]

theorem ofCount_mul_infinite {count : Nat} (positive : 0 < count) (negative : Bool) :
    ofCount count * infinite negative = infinite negative := by
  have above : (0 : ℝ) < count := Nat.cast_pos.mpr positive
  refine (if_neg above.ne').trans ?_
  rw [decide_eq_false above.not_gt, Bool.xor_false]

theorem log10_finite {value : ℝ} (positive : 0 < value) :
    Scalar.log10 (finite value) = finite (Scalar.log10 value) :=
  (if_neg positive.not_gt).trans (if_neg positive.ne')

theorem eq_infinite_of_isInfinite {value : Extended} (infinite : isInfinite value) :
    ∃ negative, value = .infinite negative := by
  cases value with
  | nan => simp [isInfinite] at infinite
  | infinite negative => exact ⟨negative, rfl⟩
  | finite value => simp [isInfinite] at infinite

@[simp] theorem nan_add (value : Extended) : nan + value = nan := rfl

@[simp] theorem add_nan (value : Extended) : value + nan = nan := by
  cases value <;> rfl

@[simp] theorem nan_sub (value : Extended) : nan - value = nan := rfl

@[simp] theorem sub_nan (value : Extended) : value - nan = nan := by
  cases value <;> rfl

@[simp] theorem nan_mul (value : Extended) : nan * value = nan := rfl

@[simp] theorem mul_nan (value : Extended) : value * nan = nan := by
  cases value <;> rfl

/-- What a function takes to no number, if it takes no number there, is a number. -/
private theorem isNumber_of_strict {f : Extended → Extended} (strict : f nan = nan)
    {value : Extended} (number : isNumber (f value)) : isNumber value := by
  cases value <;> simp [strict] at number ⊢

end Extended

open Extended in
instance : Scalar.Special Extended where
  isNumber_add {left right} number :=
    ⟨isNumber_of_strict (f := (· + right)) (nan_add right) number,
      isNumber_of_strict (f := (left + ·)) (add_nan left) number⟩
  isNumber_sub {left right} number :=
    ⟨isNumber_of_strict (f := (· - right)) (nan_sub right) number,
      isNumber_of_strict (f := (left - ·)) (sub_nan left) number⟩
  isNumber_mul {left right} number :=
    ⟨isNumber_of_strict (f := (· * right)) (nan_mul right) number,
      isNumber_of_strict (f := (left * ·)) (mul_nan left) number⟩
  isNumber_div {_ right} number := isNumber_of_strict (f := (div · right)) rfl number
  isNumber_hypot {left right} number := by
    cases left with
    | nan =>
        cases right with
        | nan => exact absurd number (by simp [Scalar.hypot, hypot])
        | infinite | finite => simp
    | infinite | finite => simp
  isNumber_stored number := number
  add_of_infinite_left {_ right} infinite number := by
    obtain ⟨negative, rfl⟩ := eq_infinite_of_isInfinite infinite
    cases right with
    | nan => simp at number
    | infinite other =>
        by_cases same : negative = other
        · exact if_pos same
        · have void : Extended.infinite negative + .infinite other = nan := if_neg same
          simp [void] at number
    | finite => rfl
  add_of_infinite_right {left _} infinite number := by
    obtain ⟨negative, rfl⟩ := eq_infinite_of_isInfinite infinite
    cases left with
    | nan => simp at number
    | infinite other =>
        by_cases same : other = negative
        · exact (if_pos same).trans (congrArg Extended.infinite same)
        · have void : Extended.infinite other + .infinite negative = nan := if_neg same
          simp [void] at number
    | finite => rfl
  div_of_infinite {_} count infinite number := by
    obtain ⟨negative, rfl⟩ := eq_infinite_of_isInfinite infinite
    exact infinite_div_ofCount negative count
  stored_of_infinite _ := rfl

namespace Extended

open Arithmetic

variable {first second : Extended}

/-- The place of a scalar among the reals and the two infinities. -/
noncomputable def height : Extended → EReal
  | .nan => 0
  | .infinite true => ⊥
  | .infinite false => ⊤
  | .finite value => value

theorem lt_iff_height_lt : first < second ↔
    isNumber first ∧ isNumber second ∧ first.height < second.height := by
  change Below first second ↔ _
  rcases first with _ | (_ | _) | _ <;> rcases second with _ | (_ | _) | _ <;>
    simp [Below, height, EReal.coe_lt_top, EReal.bot_lt_coe]

theorem le_iff_height_le : first ≤ second ↔
    isNumber first ∧ isNumber second ∧ first.height ≤ second.height := by
  change AtMost first second ↔ _
  rcases first with _ | (_ | _) | _ <;> rcases second with _ | (_ | _) | _ <;>
    simp [AtMost, Below, height, le_iff_lt_or_eq]

open scoped Classical in
theorem belowInfinity_iff {value : Extended} :
    belowInfinity value ↔ isNumber value ∧ value.height < ⊤ := by
  refine decide_eq_true_iff.trans (lt_iff_height_lt.trans ?_)
  rw [and_iff_right (isNumber_infinite false)]
  rfl

end Extended

open Extended in
/-- Extended scalars that are numbers are totally ordered. -/
instance : Arithmetic.Total Extended :=
  .of_rank lt_iff_height_lt le_iff_height_le (fun _ => le_top) belowInfinity_iff

end LoopbackCalibration
