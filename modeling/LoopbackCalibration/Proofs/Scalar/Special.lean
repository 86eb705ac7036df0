import Mathlib.Data.List.Basic
import Mathlib.Logic.Basic
import LoopbackCalibration.Phasor

/-! # Special scalars

What is not a number stays so through arithmetic, and an infinity less itself is not a
number (`Scalar.Special`). Hence a sum with a term that is not finite is *swamped* by that
term: the sum is not a number, or it is the same infinity, and either way the term less
the sum is not a number.
-/

namespace LoopbackCalibration

namespace Arithmetic

variable {α : Type} [Arithmetic α]

/-- Whether a scalar is finite, that is, still a number when it is taken from itself. -/
def isFinite (value : α) : Bool :=
  isNumber (value - value)

/-- Whether a scalar is a number but not finite. -/
def isInfinite (value : α) : Bool :=
  isNumber value && !isFinite value

end Arithmetic

namespace Phasor

variable {α : Type} [Arithmetic α]

/-- Whether both parts are finite. -/
def isFinite (value : Phasor α) : Bool :=
  Arithmetic.isFinite value.re && Arithmetic.isFinite value.im

/-- Neither part is a number. -/
def Lost (value : Phasor α) : Prop :=
  Arithmetic.isNumber value.re = false ∧ Arithmetic.isNumber value.im = false

end Phasor

open Arithmetic

/-- The special values of arithmetic. What is not a number gives nothing that is one, and
an infinity outweighs everything else. -/
class Scalar.Special (α : Type) [Scalar α] : Prop where
  /-- The terms of a sum that is a number are numbers. -/
  isNumber_add : ∀ {left right : α}, isNumber (left + right) → isNumber left ∧ isNumber right
  /-- The terms of a difference that is a number are numbers. -/
  isNumber_sub : ∀ {left right : α}, isNumber (left - right) → isNumber left ∧ isNumber right
  /-- The factors of a product that is a number are numbers. -/
  isNumber_mul : ∀ {left right : α}, isNumber (left * right) → isNumber left ∧ isNumber right
  /-- The dividend of a quotient that is a number is a number. -/
  isNumber_div : ∀ {left right : α}, isNumber (left / right) → isNumber left
  /-- Of two legs that are not numbers the hypotenuse is not one either. -/
  isNumber_hypot : ∀ {left right : α}, isNumber (Scalar.hypot left right) →
    isNumber left ∨ isNumber right
  /-- What is not a number is not stored as one. -/
  isNumber_stored : ∀ {value : α}, isNumber (stored value) → isNumber value
  /-- A sum that is a number is its first term if that is infinite. -/
  add_of_infinite_left : ∀ {left right : α}, isInfinite left → isNumber (left + right) →
    left + right = left
  /-- A sum that is a number is its second term if that is infinite. -/
  add_of_infinite_right : ∀ {left right : α}, isInfinite right → isNumber (left + right) →
    left + right = right
  /-- An infinity divided by a count is the same infinity, if it is a number. -/
  div_of_infinite : ∀ {value : α} (count : Nat), isInfinite value →
    isNumber (value / ofCount count) → value / ofCount count = value
  /-- An infinity is stored as it is. -/
  stored_of_infinite : ∀ {value : α}, isInfinite value → stored value = value

/-- A total is swamped by a term: if it is a number at all, then the term is infinite and
the total is equal to it. -/
def Swamps {α : Type} [Arithmetic α] (term total : α) : Prop :=
  isNumber total → isInfinite term ∧ total = term

namespace Swamps

variable {α : Type} [Scalar α] [Scalar.Special α] {term total : α}

theorem of_add (broken : isFinite term = false) (total : α) : Swamps term (total + term) := by
  intro number
  have infinite : isInfinite term := by
    simp [isInfinite, (Scalar.Special.isNumber_add number).2, broken]
  exact ⟨infinite, Scalar.Special.add_of_infinite_right infinite number⟩

theorem add (swamps : Swamps term total) (other : α) : Swamps term (total + other) := by
  intro number
  obtain ⟨infinite, rfl⟩ := swamps (Scalar.Special.isNumber_add number).1
  exact ⟨infinite, Scalar.Special.add_of_infinite_left infinite number⟩

theorem divide (swamps : Swamps term total) (count : Nat) :
    Swamps term (total / ofCount count) := by
  intro number
  obtain ⟨infinite, rfl⟩ := swamps (Scalar.Special.isNumber_div number)
  exact ⟨infinite, Scalar.Special.div_of_infinite count infinite number⟩

theorem stored (swamps : Swamps term total) : Swamps term (stored total) := by
  intro number
  obtain ⟨infinite, rfl⟩ := swamps (Scalar.Special.isNumber_stored number)
  exact ⟨infinite, Scalar.Special.stored_of_infinite infinite⟩

/-- A term less a total that it swamps is not a number. -/
theorem isNumber_sub (swamps : Swamps term total) : isNumber (term - total) = false := by
  rw [← Bool.not_eq_true]
  intro number
  obtain ⟨infinite, rfl⟩ := swamps (Scalar.Special.isNumber_sub number).2
  simp [isInfinite, isFinite, number] at infinite

/-- A running sum is swamped by each of its terms that is not finite. -/
theorem foldl {β : Type} {part : β → α} {samples : List β} {sample : β}
    (member : sample ∈ samples) (broken : isFinite (part sample) = false) (start : α) :
    Swamps (part sample) (samples.foldl (fun total sample => total + part sample) start) := by
  have continued : ∀ (rest : List β) (total : α), Swamps (part sample) total →
      Swamps (part sample) (rest.foldl (fun total sample => total + part sample) total) := by
    intro rest
    induction rest with
    | nil => exact fun total swamps => swamps
    | cons next rest hypothesis => exact fun total swamps => hypothesis _ (swamps.add _)
  obtain ⟨before, after, rfl⟩ := List.append_of_mem member
  rw [List.foldl_append, List.foldl_cons]
  exact continued after _ (of_add broken _)

end Swamps

end LoopbackCalibration
