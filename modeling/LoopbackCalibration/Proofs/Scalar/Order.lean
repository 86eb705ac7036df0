import Mathlib.Order.Defs.LinearOrder
import LoopbackCalibration.Proofs.Search.Offers

/-! # Numbers in order

Any two numbers compare, and what is not a number compares with nothing (`Arithmetic.Total`). So do
scalars that are ranked up to infinity (`Arithmetic.Total.of_rank`).
-/

namespace LoopbackCalibration

open Arithmetic

/-- The order of the scalars is one of the numbers, and total on them. -/
class Arithmetic.Total (α : Type) [Arithmetic α] : Prop extends Arithmetic.Ordered α where
  /-- What lies above a scalar is a number. -/
  isNumber_of_lt : ∀ {first second : α}, first < second → isNumber second
  /-- A number is at most another one unless it lies above it. -/
  le_iff : ∀ {first second : α},
    first ≤ second ↔ isNumber first ∧ isNumber second ∧ ¬second < first

variable {α : Type} [Arithmetic α]

/-- Numbers that compare as their ranks do are totally ordered. -/
theorem Arithmetic.Total.of_rank {β : Type} [LinearOrder β] {rank : α → β} {infinity : β}
    (lt_iff : ∀ {first second : α},
      first < second ↔ isNumber first ∧ isNumber second ∧ rank first < rank second)
    (le_iff : ∀ {first second : α},
      first ≤ second ↔ isNumber first ∧ isNumber second ∧ rank first ≤ rank second)
    (highest : ∀ value, rank value ≤ infinity)
    (belowInfinity_iff : ∀ {value : α},
      belowInfinity value ↔ isNumber value ∧ rank value < infinity) : Total α where
  irreflexive value below := lt_irrefl _ (lt_iff.mp below).2.2
  transitive lower upper := by
    obtain ⟨first, -, below⟩ := lt_iff.mp lower
    obtain ⟨-, third, above⟩ := lt_iff.mp upper
    exact lt_iff.mpr ⟨first, third, below.trans above⟩
  separated {first _} value below number := by
    obtain ⟨smaller, larger, below⟩ := lt_iff.mp below
    rcases lt_or_ge (rank first) (rank value) with above | least
    · exact .inl (lt_iff.mpr ⟨smaller, number, above⟩)
    · exact .inr (lt_iff.mpr ⟨number, larger, least.trans_lt below⟩)
  belowInfinity_of_lt {_ second} below := by
    obtain ⟨number, -, below⟩ := lt_iff.mp below
    exact belowInfinity_iff.mpr ⟨number, below.trans_le (highest second)⟩
  isNumber_of_belowInfinity below := (belowInfinity_iff.mp below).1
  lt_of_belowInfinity below number infinite := by
    obtain ⟨small, least⟩ := belowInfinity_iff.mp below
    rw [belowInfinity_iff, not_and, not_lt] at infinite
    exact lt_iff.mpr ⟨small, number, least.trans_le (infinite number)⟩
  isNumber_of_lt below := (lt_iff.mp below).2.1
  le_iff {first second} := by
    rw [le_iff, lt_iff]
    refine and_congr_right fun number => and_congr_right fun number' => ?_
    rw [and_iff_right number', and_iff_right number, not_lt]

end LoopbackCalibration
