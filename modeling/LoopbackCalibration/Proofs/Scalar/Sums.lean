import Mathlib.Data.EReal.Operations
import Mathlib.Tactic.SplitIfs
import LoopbackCalibration.Proofs.Scalar.Extended

/-! # Sums in order

Sums grow with their terms, and differences shrink as more is taken away, as far as they are
numbers. They are not numbers only where infinities cancel (`Arithmetic.OrderedSums`). So a
quantity that *falls* (`Arithmetic.Falls`) still falls when a scalar is added to it or when it is
cut off at a bound, although on its way it may cease to be a number, or begin to be one.

Sums go with the order where scalars have places among the reals and the infinities, and where sums
lie at the places that the exact ones are rounded to (`Arithmetic.Placed`).
-/

namespace LoopbackCalibration

namespace Arithmetic

variable {α : Type} [Arithmetic α]

/-- A number that no number lies above. -/
structure Highest (value : α) : Prop where
  isNumber : isNumber value
  le : ∀ other : α, Arithmetic.isNumber other → other ≤ value

/-- A number that no number lies below. -/
structure Lowest (value : α) : Prop where
  isNumber : isNumber value
  le : ∀ other : α, Arithmetic.isNumber other → value ≤ other

/-- Sums and differences go with the order. A highest number is an infinity, and so is a lowest
one. -/
class OrderedSums (α : Type) [Arithmetic α] : Prop extends Total α where
  /-- A sum of numbers is one, unless its terms are infinities of both kinds. -/
  isNumber_add_iff : ∀ {left right : α}, isNumber (left + right) ↔
    (isNumber left ∧ isNumber right) ∧ ¬(Highest left ∧ Lowest right) ∧
      ¬(Lowest left ∧ Highest right)
  /-- A difference of numbers is one, unless they are infinities of one kind. -/
  isNumber_sub_iff : ∀ {left right : α}, isNumber (left - right) ↔
    (isNumber left ∧ isNumber right) ∧ ¬(Highest left ∧ Highest right) ∧
      ¬(Lowest left ∧ Lowest right)
  add_le_add : ∀ {base first second : α}, first ≤ second → isNumber (base + first) →
    isNumber (base + second) → base + first ≤ base + second
  sub_le_sub : ∀ {base first second : α}, first ≤ second → isNumber (base - first) →
    isNumber (base - second) → base - second ≤ base - first
  highest_add_left : ∀ {left right : α}, Highest left → isNumber (left + right) →
    Highest (left + right)
  highest_add_right : ∀ {left right : α}, Highest right → isNumber (left + right) →
    Highest (left + right)
  highest_sub : ∀ {left right : α}, Highest left → isNumber (left - right) →
    Highest (left - right)

section Bounds

variable [Total α] {first second third value bound : α}

protected theorem Total.le_of_not_lt (number : isNumber first) (number' : isNumber second)
    (least : ¬second < first) : first ≤ second :=
  Total.le_iff.mpr ⟨number, number', least⟩

protected theorem Total.le_of_lt (below : first < second) : first ≤ second :=
  Total.le_of_not_lt (Ordered.isNumber_of_belowInfinity (Ordered.belowInfinity_of_lt below))
    (Total.isNumber_of_lt below)
    fun above => Ordered.irreflexive first (Ordered.transitive below above)

protected theorem Total.le_trans (lower : first ≤ second) (upper : second ≤ third) :
    first ≤ third := by
  obtain ⟨number, middle, low⟩ := Total.le_iff.mp lower
  obtain ⟨-, number', high⟩ := Total.le_iff.mp upper
  refine Total.le_of_not_lt number number' fun above => ?_
  exact (Ordered.separated second above middle).elim high low

theorem Highest.of_le (highest : Highest first) (below : first ≤ second) : Highest second where
  isNumber := (Total.le_iff.mp below).2.1
  le other number := Total.le_trans (highest.le other number) below

theorem Lowest.of_le (lowest : Lowest second) (below : first ≤ second) : Lowest first where
  isNumber := (Total.le_iff.mp below).1
  le other number := Total.le_trans below (lowest.le other number)

/-- The smaller one of a scalar and a bound keeps to the bound, whatever the scalar is. -/
theorem smaller_le (number : isNumber bound) (value : α) : smaller value bound ≤ bound := by
  have self : bound ≤ bound := of_decide_eq_true number
  unfold smaller
  split_ifs with number' above
  · exact self
  · exact Total.le_of_not_lt number' number above
  · exact self

end Bounds

/-- What lies behind is at most what lies before, unless the latter is highest or no number. -/
def Falls (before after : α) : Prop :=
  isNumber before → Highest before ∨ after ≤ before

section Falls

variable [OrderedSums α] {before after low high bound : α}

/-- A difference falls as more is taken away. -/
theorem falls_sub (base : α) (below : low ≤ high) : Falls (base - low) (base - high) := by
  intro number
  by_cases number' : isNumber (base - high)
  · exact .inr (OrderedSums.sub_le_sub below number number')
  · obtain ⟨⟨numbers, -⟩, -, unequal⟩ := OrderedSums.isNumber_sub_iff.mp number
    by_cases highest : Highest base
    · exact .inl (OrderedSums.highest_sub highest number)
    · -- otherwise both are lowest, and so is what was taken away before
      refine absurd (OrderedSums.isNumber_sub_iff.mpr ?_) number'
      exact ⟨⟨numbers, (Total.le_iff.mp below).2.1⟩, fun both => highest both.1,
        fun both => unequal ⟨both.1, both.2.of_le below⟩⟩

/-- A sum falls with its second term. -/
theorem Falls.add (falls : Falls before after) (base : α) :
    Falls (base + before) (base + after) := by
  intro number
  obtain ⟨⟨numbers, number'⟩, -, unequal⟩ := OrderedSums.isNumber_add_iff.mp number
  rcases falls number' with highest | below
  · exact .inl (OrderedSums.highest_add_right highest number)
  · by_cases sum : isNumber (base + after)
    · exact .inr (OrderedSums.add_le_add below sum number)
    · by_cases highest : Highest base
      · exact .inl (OrderedSums.highest_add_left highest number)
      · refine absurd (OrderedSums.isNumber_add_iff.mpr ?_) sum
        exact ⟨⟨numbers, (Total.le_iff.mp below).1⟩, fun both => highest both.1,
          fun both => unequal ⟨both.1, both.2.of_le below⟩⟩

/-- Cut off at a bound, what falls does not rise. -/
theorem Falls.smaller_le_smaller (falls : Falls before after) (bounded : isNumber bound) :
    smaller after bound ≤ smaller before bound := by
  have least : smaller after bound ≤ bound := smaller_le bounded after
  by_cases number : isNumber before
  · by_cases above : bound < before
    · have cut : smaller before bound = bound := by rw [smaller, if_pos number, if_pos above]
      rwa [cut]
    · have kept : smaller before bound = before := by rw [smaller, if_pos number, if_neg above]
      rw [kept]
      rcases falls number with highest | below
      · exact Total.le_trans least (highest.le bound bounded)
      · rw [smaller, if_pos (Total.le_iff.mp below).1]
        split_ifs with above'
        · exact Total.le_trans (Total.le_of_lt above') below
        · exact below
  · have cut : smaller before bound = bound := by rw [smaller, if_neg number]
    rwa [cut]

end Falls

/-- Numbers lie at places among the reals and the two infinities, and a sum or difference lies where
the exact one is rounded to. -/
structure Placed (height : α → EReal) (rounded : EReal → EReal) : Prop where
  le_iff : ∀ {first second : α},
    first ≤ second ↔ isNumber first ∧ isNumber second ∧ height first ≤ height second
  exists_top : ∃ value, isNumber value ∧ height value = ⊤
  exists_bot : ∃ value, isNumber value ∧ height value = ⊥
  rounded_mono : Monotone rounded
  rounded_top : rounded ⊤ = ⊤
  isNumber_add_iff : ∀ {left right : α}, isNumber (left + right) ↔
    (isNumber left ∧ isNumber right) ∧ ¬(height left = ⊤ ∧ height right = ⊥) ∧
      ¬(height left = ⊥ ∧ height right = ⊤)
  isNumber_sub_iff : ∀ {left right : α}, isNumber (left - right) ↔
    (isNumber left ∧ isNumber right) ∧ ¬(height left = ⊤ ∧ height right = ⊤) ∧
      ¬(height left = ⊥ ∧ height right = ⊥)
  height_add : ∀ {left right : α}, isNumber (left + right) →
    height (left + right) = rounded (height left + height right)
  height_sub : ∀ {left right : α}, isNumber (left - right) →
    height (left - right) = rounded (height left - height right)

namespace Placed

variable {height : α → EReal} {rounded : EReal → EReal} (placed : Placed height rounded)
  {value : α}

include placed

theorem highest_iff : Highest value ↔ isNumber value ∧ height value = ⊤ := by
  obtain ⟨infinity, number, top⟩ := placed.exists_top
  constructor
  · intro highest
    have above := (placed.le_iff.mp (highest.le infinity number)).2.2
    exact ⟨highest.isNumber, top_le_iff.mp (top ▸ above)⟩
  · rintro ⟨number', top'⟩
    exact ⟨number', fun other number => placed.le_iff.mpr ⟨number, number', top' ▸ le_top⟩⟩

theorem lowest_iff : Lowest value ↔ isNumber value ∧ height value = ⊥ := by
  obtain ⟨infinity, number, bottom⟩ := placed.exists_bot
  constructor
  · intro lowest
    have below := (placed.le_iff.mp (lowest.le infinity number)).2.2
    exact ⟨lowest.isNumber, le_bot_iff.mp (bottom ▸ below)⟩
  · rintro ⟨number', bottom'⟩
    exact ⟨number', fun other number => placed.le_iff.mpr ⟨number', number, bottom' ▸ bot_le⟩⟩

theorem orderedSums [Total α] : OrderedSums α where
  isNumber_add_iff {left right} := by
    rw [placed.isNumber_add_iff, placed.highest_iff, placed.lowest_iff, placed.highest_iff,
      placed.lowest_iff]
    exact and_congr_right fun numbers => by simp [numbers]
  isNumber_sub_iff {left right} := by
    rw [placed.isNumber_sub_iff, placed.highest_iff, placed.lowest_iff, placed.highest_iff,
      placed.lowest_iff]
    exact and_congr_right fun numbers => by simp [numbers]
  add_le_add below number number' := by
    rw [placed.le_iff, placed.height_add number, placed.height_add number']
    exact ⟨number, number',
      placed.rounded_mono (add_le_add_right (placed.le_iff.mp below).2.2 _)⟩
  sub_le_sub below number number' := by
    rw [placed.le_iff, placed.height_sub number, placed.height_sub number']
    exact ⟨number', number,
      placed.rounded_mono (EReal.sub_le_sub le_rfl (placed.le_iff.mp below).2.2)⟩
  highest_add_left {left right} highest number := by
    obtain ⟨-, top⟩ := placed.highest_iff.mp highest
    obtain ⟨-, unequal, -⟩ := placed.isNumber_add_iff.mp number
    refine placed.highest_iff.mpr ⟨number, ?_⟩
    rw [placed.height_add number, top, EReal.top_add_of_ne_bot fun bottom => unequal ⟨top, bottom⟩]
    exact placed.rounded_top
  highest_add_right {left right} highest number := by
    obtain ⟨-, top⟩ := placed.highest_iff.mp highest
    obtain ⟨-, -, unequal⟩ := placed.isNumber_add_iff.mp number
    refine placed.highest_iff.mpr ⟨number, ?_⟩
    rw [placed.height_add number, top, EReal.add_top_of_ne_bot fun bottom => unequal ⟨bottom, top⟩]
    exact placed.rounded_top
  highest_sub {left right} highest number := by
    obtain ⟨-, top⟩ := placed.highest_iff.mp highest
    obtain ⟨-, unequal, -⟩ := placed.isNumber_sub_iff.mp number
    refine placed.highest_iff.mpr ⟨number, ?_⟩
    rw [placed.height_sub number, top, EReal.top_sub fun top' => unequal ⟨top, top'⟩]
    exact placed.rounded_top

end Placed

end Arithmetic

open Arithmetic

namespace Exact

theorem not_highest (value : ℝ) : ¬Highest value :=
  fun highest => absurd (highest.le (value + 1) (isNumber_eq_true _)) (by simp)

theorem not_lowest (value : ℝ) : ¬Lowest value :=
  fun lowest => absurd (lowest.le (value - 1) (isNumber_eq_true _)) (by simp)

end Exact

open Exact in
instance : OrderedSums ℝ where
  isNumber_add_iff := by simp [not_highest]
  isNumber_sub_iff := by simp [not_highest, not_lowest]
  add_le_add below _ _ := add_le_add_right below _
  sub_le_sub below _ _ := sub_le_sub_left below _
  highest_add_left highest := (not_highest _ highest).elim
  highest_add_right highest := (not_highest _ highest).elim
  highest_sub highest := (not_highest _ highest).elim

namespace Extended

variable {left right : Extended}

theorem isNumber_add_iff : isNumber (left + right) ↔ (isNumber left ∧ isNumber right) ∧
    ¬(left.height = ⊤ ∧ right.height = ⊥) ∧ ¬(left.height = ⊥ ∧ right.height = ⊤) := by
  change isNumber (add left right) ↔ _
  rcases left with _ | (_ | _) | _ <;> rcases right with _ | (_ | _) | _ <;> simp [add, height]

/-- A sum that is a number lies where the sum of the places of its terms does. -/
theorem height_add (number : isNumber (left + right)) :
    (left + right).height = left.height + right.height := by
  change isNumber (add left right) at number
  change (add left right).height = _
  rcases left with _ | (_ | _) | _ <;> rcases right with _ | (_ | _) | _ <;>
    simp [add, height] at number ⊢

theorem isNumber_neg : isNumber (neg right) ↔ isNumber right := by
  rcases right with _ | (_ | _) | _ <;> simp [neg]

theorem height_neg : (neg right).height = -right.height := by
  rcases right with _ | (_ | _) | _ <;> simp [neg, height]

/-- The sums of extended scalars are exact. -/
theorem placed : Placed height id where
  le_iff := le_iff_height_le
  exists_top := ⟨.infinite false, isNumber_infinite false, rfl⟩
  exists_bot := ⟨.infinite true, isNumber_infinite true, rfl⟩
  rounded_mono := monotone_id
  rounded_top := rfl
  isNumber_add_iff := isNumber_add_iff
  isNumber_sub_iff {left right} := by
    change isNumber (left + neg right) ↔ _
    rw [isNumber_add_iff, isNumber_neg, height_neg, EReal.neg_eq_bot_iff, EReal.neg_eq_top_iff]
  height_add := height_add
  height_sub number := (height_add number).trans (congrArg _ height_neg)

end Extended

instance : OrderedSums Extended :=
  Extended.placed.orderedSums

end LoopbackCalibration
