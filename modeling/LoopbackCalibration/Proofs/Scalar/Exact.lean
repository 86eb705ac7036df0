import LoopbackCalibration.Correction
import LoopbackCalibration.Proofs.Scalar.Extended
import LoopbackCalibration.Proofs.Search.Reference

/-! # Scalars that hold the reals

Scalars may hold all real numbers and compute with them as the exact scalars do,
whatever else they hold: infinities, or what is no number (`Scalar.Exact`). On such
scalars the corrections that a search goes through are those of exact arithmetic, also
where the levels that it goes by are not real numbers.
-/

namespace LoopbackCalibration

open Arithmetic

/-- Scalars among which are the reals, with exact operations on these. Dividing by zero
may give anything. -/
class Scalar.Exact (α : Type) [Scalar α] where
  /-- A real number as one of the scalars. -/
  ofReal : ℝ → α
  ofReal_zero : ofReal 0 = 0
  ofReal_one : ofReal 1 = 1
  ofReal_neg (value : ℝ) : ofReal (-value) = -ofReal value
  ofReal_add (left right : ℝ) : ofReal (left + right) = ofReal left + ofReal right
  ofReal_mul (left right : ℝ) : ofReal (left * right) = ofReal left * ofReal right
  ofReal_div (value : ℝ) {divisor : ℝ} (nonzero : divisor ≠ 0) :
    ofReal (value / divisor) = ofReal value / ofReal divisor
  ofReal_lt {left right : ℝ} : ofReal left < ofReal right ↔ left < right
  ofReal_ofCount (count : Nat) : ofReal (ofCount count) = ofCount count
  ofReal_halvings (depth : Nat) : ofReal (halvings depth) = halvings depth
  ofReal_pi : ofReal Scalar.pi = Scalar.pi
  ofReal_sin (angle : ℝ) : ofReal (Scalar.sin angle) = Scalar.sin (ofReal angle)
  ofReal_cos (angle : ℝ) : ofReal (Scalar.cos angle) = Scalar.cos (ofReal angle)
  ofReal_atan2 (ordinate abscissa : ℝ) :
    ofReal (Scalar.atan2 ordinate abscissa) = Scalar.atan2 (ofReal ordinate) (ofReal abscissa)
  ofReal_hypot (first second : ℝ) :
    ofReal (Scalar.hypot first second) = Scalar.hypot (ofReal first) (ofReal second)
  ofReal_exp2 (power : ℝ) : ofReal (Scalar.exp2 power) = Scalar.exp2 (ofReal power)

noncomputable instance : Scalar.Exact ℝ where
  ofReal value := value
  ofReal_zero := rfl
  ofReal_one := rfl
  ofReal_neg _ := rfl
  ofReal_add _ _ := rfl
  ofReal_mul _ _ := rfl
  ofReal_div _ _ _ := rfl
  ofReal_lt := Iff.rfl
  ofReal_ofCount _ := rfl
  ofReal_halvings _ := rfl
  ofReal_pi := rfl
  ofReal_sin _ := rfl
  ofReal_cos _ := rfl
  ofReal_atan2 _ _ := rfl
  ofReal_hypot _ _ := rfl
  ofReal_exp2 _ := rfl

noncomputable instance : Scalar.Exact Extended where
  ofReal := .finite
  ofReal_zero := rfl
  ofReal_one := rfl
  ofReal_neg _ := rfl
  ofReal_add _ _ := rfl
  ofReal_mul _ _ := rfl
  ofReal_div value _ nonzero := (Extended.finite_div value nonzero).symm
  ofReal_lt := Iff.rfl
  ofReal_ofCount _ := rfl
  ofReal_halvings _ := rfl
  ofReal_pi := rfl
  ofReal_sin _ := rfl
  ofReal_cos _ := rfl
  ofReal_atan2 _ _ := rfl
  ofReal_hypot _ _ := rfl
  ofReal_exp2 _ := rfl

variable {α : Type} [Scalar α] [Scalar.Exact α]

namespace Scalar.Exact

theorem ofReal_injective : Function.Injective (ofReal : ℝ → α) := by
  intro left right same
  apply le_antisymm
  · apply not_lt.mp
    intro above
    have before : (ofReal right : α) < ofReal left := ofReal_lt.mpr above
    rw [same] at before
    exact lt_irrefl right (ofReal_lt.mp before)
  · apply not_lt.mp
    intro below
    have before : (ofReal left : α) < ofReal right := ofReal_lt.mpr below
    rw [same] at before
    exact lt_irrefl right (ofReal_lt.mp before)

theorem ofReal_two : (ofReal two : α) = two := by
  change (ofReal (1 + 1) : α) = 1 + 1
  rw [ofReal_add, ofReal_one]

/-- A choice by the order of two reals is the same choice among the scalars. -/
theorem ofReal_ite {left right : ℝ} (first second : ℝ) :
    (ofReal (if left < right then first else second) : α) =
      if (ofReal left : α) < ofReal right then ofReal first else ofReal second := by
  by_cases below : left < right
  · have below' : (ofReal left : α) < ofReal right := ofReal_lt.mpr below
    rw [if_pos below, if_pos below']
  · have above : ¬(ofReal left : α) < ofReal right := fun less => below (ofReal_lt.mp less)
    rw [if_neg below, if_neg above]

theorem ofReal_clamp (low high value : ℝ) :
    (ofReal (clamp low high value) : α) = clamp (ofReal low) (ofReal high) (ofReal value) := by
  unfold clamp
  dsimp only
  rw [ofReal_ite, ofReal_ite]

theorem ofReal_clampUnit (value : ℝ) :
    (ofReal (clampUnit value) : α) = clampUnit (ofReal value) := by
  unfold clampUnit
  rw [ofReal_clamp, ofReal_neg, ofReal_one]

end Scalar.Exact

open Scalar.Exact

/-- A phasor of real numbers as one of scalars. -/
def Phasor.ofReal (value : Phasor ℝ) : Phasor α :=
  ⟨Scalar.Exact.ofReal value.re, Scalar.Exact.ofReal value.im⟩

theorem Phasor.ofReal_add (left right : Phasor ℝ) :
    (Phasor.ofReal (left + right) : Phasor α) = .ofReal left + .ofReal right :=
  congrArg₂ Phasor.mk (Scalar.Exact.ofReal_add _ _) (Scalar.Exact.ofReal_add _ _)

theorem Phasor.ofReal_ofPolar (magnitude angle : ℝ) :
    (Phasor.ofReal (.ofPolar magnitude angle) : Phasor α) =
      .ofPolar (Scalar.Exact.ofReal magnitude) (Scalar.Exact.ofReal angle) := by
  unfold Phasor.ofPolar
  rw [← ofReal_cos, ← ofReal_sin, ← ofReal_mul, ← ofReal_mul]
  rfl

theorem composeIq_ofReal (delta base : Phasor ℝ) :
    composeIq (.ofReal delta) (.ofReal base) =
      (Phasor.ofReal (composeIq delta base) : Phasor α) := by
  unfold composeIq
  rw [Phasor.ofReal_ofPolar]
  congr 1
  · exact (ofReal_mul _ _).trans (congrArg₂ _ (ofReal_hypot _ _) (ofReal_hypot _ _)) |>.symm
  · exact (ofReal_add _ _).trans (congrArg₂ _ (ofReal_atan2 _ _) (ofReal_atan2 _ _)) |>.symm

theorem offsetDc_ofReal (base delta : Phasor ℝ) :
    offsetDc (.ofReal base) (.ofReal delta) = (Phasor.ofReal (offsetDc base delta) : Phasor α) := by
  unfold offsetDc clampOffset
  rw [← Phasor.ofReal_add]
  exact congrArg₂ Phasor.mk (ofReal_clampUnit _).symm (ofReal_clampUnit _).symm

namespace CorrectionKind

theorem identity_eq_ofReal (kind : CorrectionKind) :
    (kind.identity : Phasor α) = .ofReal kind.identity := by
  cases kind with
  | iqBalance => exact congrArg₂ Phasor.mk ofReal_one.symm ofReal_zero.symm
  | dcOffset => exact congrArg₂ Phasor.mk ofReal_zero.symm ofReal_zero.symm

theorem refine_ofReal (kind : CorrectionKind) (base delta : Phasor ℝ) :
    kind.refine (.ofReal base) (.ofReal delta) =
      (Phasor.ofReal (kind.refine base delta) : Phasor α) := by
  cases kind with
  | iqBalance => exact composeIq_ofReal delta base
  | dcOffset => exact offsetDc_ofReal base delta

end CorrectionKind

namespace Grid

variable (grid : Grid)

theorem coordinate_eq_ofReal (index : Nat) :
    (grid.coordinate index : α) = ofReal (grid.coordinate index) := by
  unfold coordinate halfWidth
  by_cases few : grid.steps < 2
  · rw [if_pos few, if_pos few, ← ofReal_halvings]
    exact (ofReal_neg _).symm
  · have divisor : (ofCount (grid.steps - 1) : ℝ) ≠ 0 := Nat.cast_ne_zero.mpr (by omega)
    rw [if_neg few, if_neg few, ← ofReal_halvings, ← ofReal_two, ← ofReal_ofCount index,
      ← ofReal_ofCount (grid.steps - 1), ← ofReal_mul, ← ofReal_mul, ← ofReal_neg,
      ← ofReal_div _ divisor, ← ofReal_add]

theorem dc_eq_ofReal (index : Nat) : (grid.dc index : Phasor α) = .ofReal (grid.dc index) :=
  congrArg₂ Phasor.mk (grid.coordinate_eq_ofReal _) (grid.coordinate_eq_ofReal _)

theorem iq_eq_ofReal (index : Nat) : (grid.iq index : Phasor α) = .ofReal (grid.iq index) := by
  have divisor : (two : ℝ) ≠ 0 := by
    change (1 + 1 : ℝ) ≠ 0
    norm_num
  unfold iq outer inner
  rw [Phasor.ofReal_ofPolar, coordinate_eq_ofReal (α := α), coordinate_eq_ofReal (α := α),
    ← ofReal_exp2, ← ofReal_pi, ← ofReal_two, ← ofReal_div _ divisor, ← ofReal_mul]

theorem delta_eq_ofReal (kind : CorrectionKind) (index : Nat) :
    (kind.delta (grid.point index) : Phasor α) = .ofReal (kind.delta (grid.point index)) := by
  cases kind with
  | iqBalance => exact grid.iq_eq_ofReal index
  | dcOffset => exact grid.dc_eq_ofReal index

end Grid

end LoopbackCalibration
