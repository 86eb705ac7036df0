import LoopbackCalibration.Search.Descent

/-! # Shadows of actions

An action on a larger world *shadows* an action on a smaller one when it gives the
same result and, seen through a view of the larger world, makes the same change.
What a shadow keeps beside the view has no influence. Every way of combining actions
shadows the same combination of what its parts shadow.
-/

namespace LoopbackCalibration

namespace Action

variable {σ τ ε ε' β γ : Type} {view : τ → σ}

/-- The action `shadow` does to the part of its world that `view` shows what `action`
does, and gives the same result. -/
def Shadows (view : τ → σ) (shadow : Action τ ε β) (action : Action σ ε β) : Prop :=
  ∀ world, action (view world) = ((shadow world).1, view (shadow world).2)

theorem Shadows.result {shadow : Action τ ε β} {action : Action σ ε β}
    (shadows : Shadows view shadow action) (world : τ) :
    (shadow world).1 = (action (view world)).1 := by
  rw [shadows world]

theorem Shadows.world {shadow : Action τ ε β} {action : Action σ ε β}
    (shadows : Shadows view shadow action) (world : τ) :
    view (shadow world).2 = (action (view world)).2 := by
  rw [shadows world]

theorem shadows_pure (value : β) :
    Shadows view (Action.pure value : Action τ ε β) (Action.pure value) :=
  fun _ => rfl

theorem shadows_fail (cause : ε) :
    Shadows view (fail cause : Action τ ε β) (fail cause) :=
  fun _ => rfl

theorem shadows_modify {change : σ → σ} {change' : τ → τ}
    (agrees : ∀ world, view (change' world) = change (view world)) :
    Shadows view (modify change' : Action τ ε Unit) (modify change) :=
  fun world => by simp only [modify, agrees]

theorem Shadows.bind {first' : Action τ ε β} {first : Action σ ε β}
    {next' : β → Action τ ε γ} {next : β → Action σ ε γ} (begins : Shadows view first' first)
    (continues : ∀ value, Shadows view (next' value) (next value)) :
    Shadows view (Action.bind first' next') (Action.bind first next) := by
  intro world
  have reached := begins world
  unfold Action.bind
  rcases outcome : first' world with ⟨_ | value, after⟩ <;> rw [outcome] at reached
  · rw [reached]
  · rw [reached]
    exact continues value after

theorem Shadows.mapError {shadow : Action τ ε β} {action : Action σ ε β}
    (shadows : Shadows view shadow action) (restate : ε → ε') :
    Shadows view (mapError restate shadow) (mapError restate action) := by
  intro world
  have reached := shadows world
  unfold Action.mapError
  rcases outcome : shadow world with ⟨_ | _, after⟩ <;> rw [outcome] at reached <;> rw [reached]

theorem shadows_forEach {shadow : γ → Action τ ε Unit} {action : γ → Action σ ε Unit}
    (each : ∀ element, Shadows view (shadow element) (action element)) (list : List γ) :
    Shadows view (forEach shadow list) (forEach action list) := by
  induction list with
  | nil => exact shadows_pure ()
  | cons element rest ih => exact (each element).bind fun _ => ih

end Action

namespace Descent

open Action

variable {σ τ ε α β : Type} [Scalar α] {view : τ → σ}
  {attempt' : β → TestPoint α → β → Action τ (Halt ε) β}
  {attempt : β → TestPoint α → β → Action σ (Halt ε) β}

theorem shadows_tryPoints
    (each : ∀ start point found,
      Shadows view (attempt' start point found) (attempt start point found))
    (grid : Grid) (start : β) (ahead : Nat) (found : β) :
    Shadows view (tryPoints grid (attempt' start) ahead found)
      (tryPoints grid (attempt start) ahead found) := by
  induction ahead generalizing found with
  | zero => exact shadows_pure found
  | succ ahead ih => exact (each start _ found).bind ih

theorem shadows_tryGrids
    (each : ∀ start point found,
      Shadows view (attempt' start point found) (attempt start point found))
    (grids : List Grid) (found : β) :
    Shadows view (tryGrids attempt' grids found) (tryGrids attempt grids found) := by
  induction grids generalizing found with
  | nil => exact shadows_pure found
  | cons grid rest ih =>
      refine Shadows.bind ?_ ih
      unfold tryGrid
      split
      · exact shadows_tryPoints each grid found grid.size found
      · exact shadows_fail _

end Descent

end LoopbackCalibration
