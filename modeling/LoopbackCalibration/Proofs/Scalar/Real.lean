import Mathlib.Analysis.SpecialFunctions.Complex.Arg
import Mathlib.Analysis.SpecialFunctions.Log.Base
import Mathlib.Analysis.SpecialFunctions.Pow.Real
import Mathlib.Analysis.SpecialFunctions.Trigonometric.Basic
import LoopbackCalibration.Proofs.Scalar.Order

/-! # Exact scalars

The real numbers as scalars: every operation is exact, every scalar is a number below
infinity, and a sample buffer holds what is stored in it.
-/

namespace LoopbackCalibration

open scoped Classical in
noncomputable instance : Scalar ℝ where
  decideLt _ _ := inferInstance
  decideLe _ _ := inferInstance
  ofCount count := count
  halvings count := 2⁻¹ ^ count
  truncate value :=
    max (-2 ^ 63) (min (2 ^ 63 - 1) (if 0 ≤ value then ⌊value⌋ else ⌈value⌉))
  belowInfinity _ := true
  stored value := value
  pi := Real.pi
  sqrt := Real.sqrt
  sin := Real.sin
  cos := Real.cos
  atan2 ordinate abscissa := Complex.arg ⟨abscissa, ordinate⟩
  hypot first second := Real.sqrt (first ^ 2 + second ^ 2)
  exp2 value := 2 ^ value
  exp10 value := 10 ^ value
  log10 := Real.logb 10

namespace Exact

open Arithmetic

@[simp] theorem isNumber_eq_true (value : ℝ) : isNumber value = true :=
  decide_eq_true (le_refl value)

theorem two_eq : (two : ℝ) = 2 :=
  one_add_one_eq_two

end Exact

instance : Arithmetic.Total ℝ where
  irreflexive := lt_irrefl
  transitive := lt_trans
  separated value below _ := (lt_or_ge _ value).imp_right fun least => least.trans_lt below
  belowInfinity_of_lt _ := rfl
  isNumber_of_belowInfinity _ := Exact.isNumber_eq_true _
  lt_of_belowInfinity _ _ finite := (finite rfl).elim
  isNumber_of_lt _ := Exact.isNumber_eq_true _
  le_iff := by simp

end LoopbackCalibration
