import LoopbackCalibration.Search.Descent

/-! # Actions that are cut short

An action that may be cut short for some causes does what another action does, except that it
may stop for one of these causes instead. Put together from such actions, a computation may be
cut short for the same causes.
-/

namespace LoopbackCalibration

namespace Action

variable {σ ε ε' β γ : Type} {excused : ε → Prop}

/-- In every world the action does what the whole one does, or stops for an excused cause. -/
def CutShort (excused : ε → Prop) (action whole : Action σ ε β) : Prop :=
  ∀ world, action world = whole world ∨
    ∃ cause after, action world = (.error cause, after) ∧ excused cause

theorem cutShort_refl (action : Action σ ε β) : CutShort excused action action :=
  fun _ => .inl rfl

theorem CutShort.bind {first whole : Action σ ε β} {next next' : β → Action σ ε γ}
    (begins : CutShort excused first whole)
    (continues : ∀ value, CutShort excused (next value) (next' value)) :
    CutShort excused (Action.bind first next) (Action.bind whole next') := by
  intro world
  unfold Action.bind
  rcases begins world with same | ⟨cause, after, stopped, exempt⟩
  · rw [same]
    rcases whole world with ⟨cause | value, after⟩
    · exact .inl rfl
    · exact continues value after
  · rw [stopped]
    exact .inr ⟨cause, after, rfl, exempt⟩

theorem CutShort.mapError {excused' : ε' → Prop} {restate : ε → ε'} {action whole : Action σ ε β}
    (cut : CutShort excused action whole)
    (exempt : ∀ cause, excused cause → excused' (restate cause)) :
    CutShort excused' (mapError restate action) (mapError restate whole) := by
  intro world
  unfold Action.mapError
  rcases cut world with same | ⟨cause, after, stopped, excuse⟩
  · rw [same]
    exact .inl rfl
  · rw [stopped]
    exact .inr ⟨restate cause, after, rfl, exempt cause excuse⟩

end Action

namespace Descent

open Action

variable {σ ε α β : Type} [Scalar α] {excused : Halt ε → Prop}

/-- A search is cut short where one of its trials is. -/
theorem cutShort_tryGrids {attempt attempt' : β → TestPoint α → β → Action σ (Halt ε) β}
    (each : ∀ start point found,
      CutShort excused (attempt start point found) (attempt' start point found))
    (grids : List Grid) (found : β) :
    CutShort excused (tryGrids attempt grids found) (tryGrids attempt' grids found) := by
  have points : ∀ grid start ahead found, CutShort excused
      (tryPoints grid (attempt start) ahead found)
      (tryPoints grid (attempt' start) ahead found) := by
    intro grid start ahead
    induction ahead with
    | zero => exact fun found => cutShort_refl _
    | succ ahead ih => exact fun found => (each start _ found).bind ih
  induction grids generalizing found with
  | nil => exact cutShort_refl _
  | cons grid rest ih =>
      refine CutShort.bind ?_ ih
      unfold tryGrid
      split
      · exact points grid found grid.size found
      · exact cutShort_refl _

end Descent

end LoopbackCalibration
