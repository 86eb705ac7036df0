import Mathlib
import LoopbackCalibration.Proofs.Scalar.Binary64
import LoopbackCalibration.Proofs.Scalar.Real
import LoopbackCalibration.Proofs.Scalar.Special

/-! # Signed zeros

Doubles have two zeros that compare as equal. Two scalars are numerically the same if they are
equal or both zero (`Arithmetic.Same`). A term of zero leaves a sum numerically as it was, and
zero times a finite scalar is zero (`Scalar.Zeros`).
-/

namespace LoopbackCalibration

namespace Arithmetic

variable {α : Type} [Arithmetic α]

/-- Whether a scalar is zero, of whichever sign. -/
def IsZero (value : α) : Prop := value ≤ 0 ∧ 0 ≤ value

/-- Two scalars are equal but for the sign of a zero. -/
def Same (first second : α) : Prop := first = second ∨ IsZero first ∧ IsZero second

namespace Same

variable {first second third : α}

theorem symm (same : Same first second) : Same second first := by
  rcases same with rfl | ⟨first, second⟩
  · exact .inl rfl
  · exact .inr ⟨second, first⟩

theorem trans (same : Same first second) (further : Same second third) : Same first third := by
  rcases same with rfl | ⟨first, second⟩
  · exact further
  · rcases further with rfl | ⟨-, third⟩
    · exact .inr ⟨first, second⟩
    · exact .inr ⟨first, third⟩

/-- Storing keeps what is numerically the same if it keeps zeros. -/
theorem stored (stores : ∀ zero : α, IsZero zero → IsZero (Arithmetic.stored zero))
    (same : Same first second) : Same (Arithmetic.stored first) (Arithmetic.stored second) := by
  rcases same with rfl | ⟨zero, zero'⟩
  · exact .inl rfl
  · exact .inr ⟨stores _ zero, stores _ zero'⟩

end Same

theorem isZero_larger_zero {value : α} (zero : IsZero value) (least : IsZero (0 : α)) :
    IsZero (larger value 0) := by
  unfold larger
  split_ifs <;> assumption

end Arithmetic

open Arithmetic

/-- Both parts are the same but for the sign of a zero. -/
def Phasor.Same {α : Type} [Arithmetic α] (first second : Phasor α) : Prop :=
  Arithmetic.Same first.re second.re ∧ Arithmetic.Same first.im second.im

namespace Phasor.Same

variable {α : Type} [Arithmetic α] {first second third : Phasor α}

theorem symm (same : first.Same second) : second.Same first :=
  ⟨same.1.symm, same.2.symm⟩

theorem trans (same : first.Same second) (further : second.Same third) : first.Same third :=
  ⟨same.1.trans further.1, same.2.trans further.2⟩

theorem stored (stores : ∀ zero : α, IsZero zero → IsZero (Arithmetic.stored zero))
    (same : first.Same second) : first.stored.Same second.stored :=
  ⟨same.1.stored stores, same.2.stored stores⟩

end Phasor.Same

/-- Zeros vanish in sums and products. -/
class Scalar.Zeros (α : Type) [Scalar α] : Prop where
  isZero_zero : IsZero (0 : α)
  /-- Zero over the root of two is zero. -/
  isZero_div_root : ∀ {zero : α}, IsZero zero → IsZero (zero / Scalar.sqrt two)
  /-- A finite scalar times zero is zero. -/
  isZero_mul : ∀ {value zero : α}, isFinite value → IsZero zero → IsZero (value * zero)
  /-- A sum is its first term if the second one is zero. -/
  add_same : ∀ {value zero : α}, IsZero zero → Same (value + zero) value

/-- Finite noise of no strength leaves a phasor as it is. -/
theorem Phasor.same_add_scale {α : Type} [Scalar α] [Scalar.Zeros α] {sigma : α}
    (silent : IsZero sigma) (value : Phasor α) {noise : Phasor α} (finite : noise.isFinite) :
    (value + noise.scale sigma).Same value := by
  obtain ⟨re, im⟩ := Bool.and_eq_true_iff.mp finite
  exact ⟨Scalar.Zeros.add_same (Scalar.Zeros.isZero_mul re silent),
    Scalar.Zeros.add_same (Scalar.Zeros.isZero_mul im silent)⟩

theorem Exact.isZero_iff {value : ℝ} : IsZero value ↔ value = 0 :=
  ⟨fun zero => le_antisymm zero.1 zero.2, fun zero => ⟨zero.le, zero.ge⟩⟩

/-- Exact phasors that are numerically the same are equal. -/
theorem Exact.eq_of_same {first second : Phasor ℝ} (same : first.Same second) : first = second := by
  have equal {first second : ℝ} (same : Same first second) : first = second := by
    rcases same with rfl | ⟨zero, zero'⟩
    · rfl
    · rw [Exact.isZero_iff.mp zero, Exact.isZero_iff.mp zero']
  exact congrArg₂ Phasor.mk (equal same.1) (equal same.2)

instance : Scalar.Zeros ℝ where
  isZero_zero := Exact.isZero_iff.mpr rfl
  isZero_div_root zero := by
    rw [Exact.isZero_iff] at zero ⊢
    rw [zero, zero_div]
  isZero_mul _ zero := by
    rw [Exact.isZero_iff] at zero ⊢
    rw [zero, mul_zero]
  add_same zero := .inl (by rw [Exact.isZero_iff.mp zero, add_zero])

namespace Binary64

open Float.Model UnpackedFloat

/-- The double that a number is packed into. -/
def packed (number : UnpackedFloat) : Float := .ofModel (.pack number)

/-- Unpacking a double and packing it again loses nothing. -/
theorem packed_unpack (value : Float) : packed value.toModel.unpack = value :=
  Float.ofBits_toBits value

theorem eq_zero_of_le_of_le {number : UnpackedFloat} (below : number.le (.zero .positive))
    (above : (zero .positive).le number) : ∃ sign, number = .zero sign := by
  cases number with
  | zero sign => exact ⟨sign, rfl⟩
  | notANumber => cases below
  | infinity sign | finite sign =>
      -- these lie on one side of zero
      cases sign with
      | negative => cases above
      | positive => cases below

theorem isZero_iff {value : Float} :
    IsZero value ↔ ∃ sign, value.toModel.unpack = .zero sign := by
  have compared : IsZero value ↔
      value.toModel.unpack.le (.zero .positive) ∧ (zero .positive).le value.toModel.unpack := by
    rw [← unpack_zero]
    exact and_congr decide_eq_true_iff decide_eq_true_iff
  rw [compared]
  refine ⟨fun ⟨below, above⟩ => eq_zero_of_le_of_le below above, ?_⟩
  rintro ⟨sign, unpacked⟩
  rw [unpacked]
  exact ⟨rfl, rfl⟩

theorem isZero_packed (sign : Sign) : IsZero (packed (.zero sign)) := by
  cases sign <;> exact ⟨rfl, rfl⟩

/-- What is finite is neither infinite nor void. -/
theorem isFinite_unpack {value : Float} (finite : Arithmetic.isFinite value) :
    value.toModel.unpack.isFinite := by
  have number : (value - value).isNaN = false := isNumber_iff.mp finite
  have difference : value - value =
      packed (UnpackedFloat.sub .binary64 value.toModel.unpack value.toModel.unpack) := rfl
  rw [difference] at number
  cases unpacked : value.toModel.unpack with
  | infinity sign =>
      rw [unpacked] at number
      cases sign <;> exact absurd number (by decide)
  | notANumber =>
      rw [unpacked] at number
      exact absurd number (by decide)
  | zero | finite => rfl

theorem zero_mul_unpacked {number : UnpackedFloat} (finite : number.isFinite) (sign : Sign) :
    ∃ sign', UnpackedFloat.mul .binary64 number (.zero sign) = .zero sign' := by
  cases number with
  | zero | finite => exact ⟨_, rfl⟩
  | infinity | notANumber => cases finite

theorem unpack_root :
    (zero .positive).lt (Scalar.sqrt Arithmetic.two : Float).toModel.unpack := by
  decide +kernel

theorem zero_div_unpacked {number : UnpackedFloat} (positive : (zero .positive).lt number)
    (sign : Sign) : ∃ sign', UnpackedFloat.div .binary64 (.zero sign) number = .zero sign' := by
  cases number with
  | infinity | finite => exact ⟨_, rfl⟩
  | zero | notANumber => cases positive

/-- A sum with zero is the other term, or zero. -/
theorem add_zero_unpacked (number : UnpackedFloat) (sign : Sign) :
    UnpackedFloat.add .binary64 number (.zero sign) = number ∨
      ∃ first second, number = .zero first ∧
        UnpackedFloat.add .binary64 number (.zero sign) = .zero second := by
  cases number with
  | zero first => exact .inr ⟨first, by cases first <;> cases sign <;> exact ⟨_, rfl, rfl⟩⟩
  | infinity | notANumber | finite => exact .inl rfl

theorem isZero_div_root {value : Float} (isZero : IsZero value) :
    IsZero (value / Scalar.sqrt Arithmetic.two) := by
  obtain ⟨sign, unpacked⟩ := isZero_iff.mp isZero
  obtain ⟨sign', quotient⟩ := zero_div_unpacked unpack_root sign
  have divided : value / Scalar.sqrt Arithmetic.two = packed (.div .binary64 value.toModel.unpack
      (Scalar.sqrt Arithmetic.two : Float).toModel.unpack) := rfl
  rw [divided, unpacked, quotient]
  exact isZero_packed sign'

theorem isZero_mul {value zero : Float} (finite : Arithmetic.isFinite value)
    (isZero : IsZero zero) : IsZero (value * zero) := by
  obtain ⟨sign, unpacked⟩ := isZero_iff.mp isZero
  obtain ⟨sign', product⟩ := zero_mul_unpacked (isFinite_unpack finite) sign
  have multiplied : value * zero =
      packed (.mul .binary64 value.toModel.unpack zero.toModel.unpack) := rfl
  rw [multiplied, unpacked, product]
  exact isZero_packed sign'

theorem add_same {value zero : Float} (isZero : IsZero zero) : Same (value + zero) value := by
  obtain ⟨sign, unpacked⟩ := isZero_iff.mp isZero
  have added : value + zero =
      packed (.add .binary64 value.toModel.unpack zero.toModel.unpack) := rfl
  rw [added, unpacked]
  rcases add_zero_unpacked value.toModel.unpack sign with same | ⟨first, second, zero, sum⟩
  · rw [same, packed_unpack]
    exact .inl rfl
  · rw [sum]
    exact .inr ⟨isZero_packed second, isZero_iff.mpr ⟨first, zero⟩⟩

end Binary64

/-- The zeros of doubles, which the program computes with, vanish. -/
instance : Scalar.Zeros Float where
  isZero_zero := ⟨rfl, rfl⟩
  isZero_div_root := Binary64.isZero_div_root
  isZero_mul := Binary64.isZero_mul
  add_same := Binary64.add_same

end LoopbackCalibration
