import Mathlib.Algebra.GroupWithZero.Nat
import LoopbackCalibration.Search.Descent

/-! # What actions ensure

`Action.Ensures` says what an action started in a world of one kind leaves behind,
both when it gives a value and when it fails. An assertion about a whole
computation is put together from assertions about its steps by one rule for each
way of combining actions, and a search is covered by an assertion about a single
trial (`Descent.ensures_tryGrids`).
-/

namespace LoopbackCalibration

namespace Action

variable {σ ε ε' β γ : Type}

/-- Started in a world satisfying `before`, the action ends with a value and a world
satisfying `success`, or with an error and a world satisfying `failure`. -/
def Ensures (before : σ → Prop) (action : Action σ ε β) (success : β → σ → Prop)
    (failure : ε → σ → Prop) : Prop :=
  ∀ world, before world →
    match action world with
    | (.ok value, after) => success value after
    | (.error cause, after) => failure cause after

variable {before : σ → Prop} {success : β → σ → Prop} {failure : ε → σ → Prop}

theorem Ensures.of_ok {action : Action σ ε β} (ensures : Ensures before action success failure)
    {world after : σ} {value : β} (start : before world)
    (result : action world = (.ok value, after)) : success value after := by
  have reached := ensures world start
  rwa [result] at reached

theorem Ensures.of_error {action : Action σ ε β}
    (ensures : Ensures before action success failure) {world after : σ} {cause : ε}
    (start : before world) (result : action world = (.error cause, after)) :
    failure cause after := by
  have reached := ensures world start
  rwa [result] at reached

/-- Stronger before and weaker after. -/
theorem Ensures.weaken {before' : σ → Prop} {success' : β → σ → Prop} {failure' : ε → σ → Prop}
    {action : Action σ ε β} (ensures : Ensures before' action success' failure')
    (start : ∀ world, before world → before' world)
    (good : ∀ value after, success' value after → success value after)
    (bad : ∀ cause after, failure' cause after → failure cause after) :
    Ensures before action success failure := by
  intro world holds
  have reached := ensures world (start world holds)
  rcases outcome : action world with ⟨_ | _, after⟩ <;> rw [outcome] at reached
  · exact bad _ _ reached
  · exact good _ _ reached

/-- What the action always keeps is ensured, whether it fails or not. -/
theorem Ensures.of_keeps {invariant : σ → Prop} {action : Action σ ε β}
    (keeps : ∀ world, invariant world → invariant (action world).2) :
    Ensures invariant action (fun _ => invariant) fun _ => invariant := by
  intro world holds
  have kept := keeps world holds
  rcases outcome : action world with ⟨_ | _, after⟩ <;> rw [outcome] at kept <;> exact kept

/-- Several assertions about the values of one action. -/
theorem Ensures.and_forall {ι : Type} {more : ι → β → σ → Prop} {action : Action σ ε β}
    (ensures : Ensures before action success failure)
    (others : ∀ index, Ensures before action (more index) fun _ _ => True) :
    Ensures before action (fun value after => success value after ∧ ∀ index, more index value after)
      failure := by
  intro world holds
  have reached := ensures world holds
  rcases outcome : action world with ⟨_ | value, after⟩ <;> rw [outcome] at reached
  · exact reached
  · exact ⟨reached, fun index => (others index).of_ok holds outcome⟩

/-- What is known of every value of an action is known besides what else is ensured. -/
theorem Ensures.known_and {known : β → Prop} {action : Action σ ε β}
    (knows : Ensures (fun _ => True) action (fun value _ => known value) fun _ _ => True)
    (ensures : Ensures before action success failure) :
    Ensures before action (fun value after => known value ∧ success value after) failure := by
  intro world holds
  have knew := knows world trivial
  have reached := ensures world holds
  rcases outcome : action world with ⟨_ | value, after⟩ <;> rw [outcome] at knew reached
  · exact reached
  · exact ⟨knew, reached⟩

/-- Assertions about one action, taken together. -/
theorem Ensures.forall_mem {ι : Type} {members : ι → Prop} {before : ι → σ → Prop}
    {success : ι → β → σ → Prop} {failure : ι → ε → σ → Prop} {action : Action σ ε β}
    (each : ∀ index, members index →
      Ensures (before index) action (success index) (failure index)) :
    Ensures (fun world => ∀ index, members index → before index world) action
      (fun value world => ∀ index, members index → success index value world)
      fun cause world => ∀ index, members index → failure index cause world := by
  intro world holds
  have reached := fun index member => each index member world (holds index member)
  rcases outcome : action world with ⟨_ | _, after⟩ <;> rw [outcome] at reached <;>
    exact reached

theorem ensures_true (action : Action σ ε β) :
    Ensures before action (fun _ _ => True) fun _ _ => True := by
  intro world _
  rcases action world with ⟨_ | _, after⟩ <;> exact trivial

theorem ensures_pure (value : β) (holds : ∀ world, before world → success value world) :
    Ensures before (Action.pure value : Action σ ε β) success failure := holds

theorem ensures_fail (cause : ε) (holds : ∀ world, before world → failure cause world) :
    Ensures before (fail cause : Action σ ε β) success failure := holds

theorem Ensures.mapError {failure : ε' → σ → Prop} {action : Action σ ε β} {restate : ε → ε'}
    (ensures : Ensures before action success fun cause => failure (restate cause)) :
    Ensures before (mapError restate action) success failure := by
  intro world holds
  have reached := ensures world holds
  unfold Action.mapError
  rcases outcome : action world with ⟨_ | _, after⟩ <;> rw [outcome] at reached <;> exact reached

/-- What the first action leaves behind is what the second one starts from; an
error of either one is an error of both. -/
theorem Ensures.bind {first : Action σ ε β} {next : β → Action σ ε γ}
    {middle : β → σ → Prop} {success : γ → σ → Prop}
    (begins : Ensures before first middle failure)
    (continues : ∀ value, Ensures (middle value) (next value) success failure) :
    Ensures before (Action.bind first next) success failure := by
  intro world holds
  have reached := begins world holds
  unfold Action.bind
  rcases outcome : first world with ⟨_ | value, after⟩ <;> rw [outcome] at reached
  · exact reached
  · exact continues value after reached

/-- What is ensured on a part of the world is ensured of that part, and what is known of the
rest of the world stays. -/
theorem Ensures.onPart_and {τ : Type} {action : Action σ ε β} {view : τ → σ}
    {update : σ → τ → τ} (rest : τ → Prop)
    (view_update : ∀ part world, view (update part world) = part)
    (keeps : ∀ part world, rest world → rest (update part world))
    (ensures : Ensures before action success failure) :
    Ensures (fun world => rest world ∧ before (view world)) (onPart view update action)
      (fun value world => rest world ∧ success value (view world))
      fun cause world => rest world ∧ failure cause (view world) := by
  rintro world ⟨others, holds⟩
  have reached := ensures (view world) holds
  unfold Action.onPart
  rcases outcome : action (view world) with ⟨_ | _, after⟩ <;> rw [outcome] at reached <;>
    exact ⟨keeps after world others, by rwa [view_update]⟩

/-- What is ensured on a part of the world is ensured of that part. -/
theorem Ensures.onPart {τ : Type} {action : Action σ ε β} {view : τ → σ} {update : σ → τ → τ}
    (view_update : ∀ part world, view (update part world) = part)
    (ensures : Ensures before action success failure) :
    Ensures (fun world => before (view world)) (onPart view update action)
      (fun value world => success value (view world))
      fun cause world => failure cause (view world) :=
  (ensures.onPart_and (fun _ => True) view_update fun _ _ => id).weaken
    (fun _ holds => ⟨trivial, holds⟩) (fun _ _ => And.right) fun _ _ => And.right

/-- What an action made of the world that it was started in is known afterwards. -/
theorem Ensures.remember {action : Action σ ε β} (ensures : Ensures before action success failure)
    (start : σ) :
    Ensures (fun world => world = start ∧ before world) action
      (fun value after => action start = (.ok value, after) ∧ success value after)
      fun cause after => action start = (.error cause, after) ∧ failure cause after := by
  rintro world ⟨rfl, holds⟩
  have reached := ensures world holds
  rcases outcome : action world with ⟨_ | _, after⟩ <;> rw [outcome] at reached <;>
    exact ⟨rfl, reached⟩

/-- What is known beside the world may be used. -/
theorem Ensures.of_and {fact : Prop} {action : Action σ ε β}
    (ensures : fact → Ensures before action success failure) :
    Ensures (fun world => fact ∧ before world) action success failure := by
  rintro world ⟨known, holds⟩
  exact ensures known world holds

theorem ensures_forEach {action : γ → Action σ ε Unit} {invariant : σ → Prop} {list : List γ}
    (each : ∀ element ∈ list,
      Ensures invariant (action element) (fun _ => invariant) failure) :
    Ensures invariant (forEach action list) (fun _ => invariant) failure := by
  induction list with
  | nil => exact ensures_pure () fun _ holds => holds
  | cons element rest ih =>
      exact (each element List.mem_cons_self).bind fun _ =>
        ih fun later member => each later (List.mem_cons_of_mem _ member)

end Action

namespace Descent

open Action

variable {σ ε α β : Type} [Scalar α] {failure : Halt ε → σ → Prop}

/-- **Searches by counted trials.** What a trial leaves behind, as the invariant for one more
point, a search leaves behind for all its points, whatever the trials were started from and
whatever was found. Every trial is one of those that the bound allows. The search fails by
itself only on a grid with too many points. -/
theorem ensures_tryGrids_within {attempt : β → TestPoint α → β → Action σ (Halt ε) β}
    {invariant : Nat → β → σ → Prop} {bound : Nat} {grids : List Grid}
    (each : ∀ tried < bound, ∀ start point found, Ensures (invariant tried found)
      (attempt start point found) (invariant (tried + 1)) failure)
    (overflow : ∀ grid ∈ grids, ¬grid.fits → ∀ tried found world, invariant tried found world →
      failure .overflow world) (tried : Nat) (found : β)
    (within : tried + (grids.map Grid.size).sum ≤ bound) :
    Ensures (invariant tried found) (tryGrids attempt grids found)
      (invariant (tried + (grids.map Grid.size).sum)) failure := by
  have points : ∀ grid start ahead tried found, tried + ahead ≤ bound →
      Ensures (invariant tried found) (tryPoints grid (attempt start) ahead found)
        (invariant (tried + ahead)) failure := by
    intro grid start ahead
    induction ahead with
    | zero => exact fun tried found _ => ensures_pure found fun _ holds => holds
    | succ ahead ih =>
        intro tried found within
        refine (each tried (by omega) start _ found).bind fun later => ?_
        rw [show tried + (ahead + 1) = tried + 1 + ahead by omega]
        exact ih (tried + 1) later (by omega)
  induction grids generalizing tried found with
  | nil => exact ensures_pure found fun _ holds => holds
  | cons grid rest ih =>
      rw [List.map_cons, List.sum_cons, ← Nat.add_assoc] at within ⊢
      refine Ensures.bind ?_ fun later =>
        ih (fun later member => overflow later (List.mem_cons_of_mem _ member)) _ later within
      unfold tryGrid
      split
      · exact points grid found grid.size tried found (by omega)
      · exact ensures_fail _ (overflow grid List.mem_cons_self ‹_› tried found)

theorem ensures_tryGrids_counted {attempt : β → TestPoint α → β → Action σ (Halt ε) β}
    {invariant : Nat → β → σ → Prop} {grids : List Grid}
    (each : ∀ tried start point found, Ensures (invariant tried found)
      (attempt start point found) (invariant (tried + 1)) failure)
    (overflow : ∀ grid ∈ grids, ¬grid.fits → ∀ tried found world, invariant tried found world →
      failure .overflow world) (tried : Nat) (found : β) :
    Ensures (invariant tried found) (tryGrids attempt grids found)
      (invariant (tried + (grids.map Grid.size).sum)) failure :=
  ensures_tryGrids_within (fun tried _ => each tried) overflow tried found (Nat.le_refl _)

/-- **Searches by trials.** What every trial preserves, whatever it was started from
and whatever was found, the whole search preserves. It fails by itself only on a grid
with too many points. -/
theorem ensures_tryGrids {attempt : β → TestPoint α → β → Action σ (Halt ε) β}
    {invariant : β → σ → Prop} {grids : List Grid}
    (each : ∀ start point found,
      Ensures (invariant found) (attempt start point found) invariant failure)
    (overflow : ∀ grid ∈ grids, ¬grid.fits → ∀ found world, invariant found world →
      failure .overflow world) (found : β) :
    Ensures (invariant found) (tryGrids attempt grids found) invariant failure :=
  ensures_tryGrids_counted (fun _ => each) (fun grid member excess _ => overflow grid member excess)
    0 found

private theorem ensures_tryPoints_each {attempt : TestPoint α → β → Action σ (Halt ε) β}
    {grid : Grid} {underway : Nat → β → σ → Prop}
    (each : ∀ index < grid.size, ∀ found, Ensures (underway index found)
      (attempt (grid.point index) found) (underway (index + 1)) failure)
    (ahead : Nat) (bounded : ahead ≤ grid.size) (found : β) :
    Ensures (underway (grid.size - ahead) found) (tryPoints grid attempt ahead found)
      (underway grid.size) failure := by
  induction ahead generalizing found with
  | zero => exact ensures_pure found fun _ holds => holds
  | succ ahead ih =>
      have next : grid.size - (ahead + 1) + 1 = grid.size - ahead := by omega
      have tried := each (grid.size - (ahead + 1)) (by omega) found
      rw [next] at tried
      exact tried.bind fun found => ih (by omega) found

/-- **Searches by grids.** `reached` is what is known after the first grids of the list, and
`underway` what is known after some points of the grid behind them, which were all tried
from what had been found at the start of that grid. -/
theorem ensures_tryGrids_inOrder {attempt : β → TestPoint α → β → Action σ (Halt ε) β}
    {grids : List Grid} (reached : List Grid → β → σ → Prop)
    (underway : List Grid → Grid → Nat → β → β → σ → Prop)
    (begins : ∀ done grid rest, grids = done ++ grid :: rest → ∀ found world,
      reached done found world → underway done grid 0 found found world)
    (each : ∀ done grid rest, grids = done ++ grid :: rest → ∀ index < grid.size,
      ∀ start found, Ensures (underway done grid index start found)
        (attempt start (grid.point index) found) (underway done grid (index + 1) start) failure)
    (ends : ∀ done grid rest, grids = done ++ grid :: rest → ∀ start found world,
      underway done grid grid.size start found world → reached (done ++ [grid]) found world)
    (overflow : ∀ done found world, reached done found world → failure .overflow world)
    (found : β) :
    Ensures (reached [] found) (tryGrids attempt grids found) (reached grids) failure := by
  have oneGrid : ∀ done grid rest, grids = done ++ grid :: rest → ∀ found,
      Ensures (reached done found) (tryGrid attempt grid found) (reached (done ++ [grid]))
        failure := by
    intro done grid rest visits found
    unfold tryGrid
    split
    · have points := ensures_tryPoints_each
        (fun index within => each done grid rest visits index within found)
        grid.size (Nat.le_refl _) found
      rw [Nat.sub_self] at points
      exact points.weaken (begins done grid rest visits found) (ends done grid rest visits found)
        fun _ _ => id
    · exact ensures_fail _ (overflow done found)
  have onward : ∀ ahead done found, grids = done ++ ahead →
      Ensures (reached done found) (tryGrids attempt ahead found) (reached grids) failure := by
    intro ahead
    induction ahead with
    | nil =>
        intro done found visits
        rw [visits, List.append_nil]
        exact ensures_pure found fun _ holds => holds
    | cons grid rest ih =>
        intro done found visits
        exact (oneGrid done grid rest visits found).bind fun found =>
          ih (done ++ [grid]) found (by rw [visits, List.append_cons])
  exact onward grids [] found rfl

end Descent

end LoopbackCalibration
