import LoopbackCalibration.Search.Descent

/-! # Two actions that agree

Two actions started in related worlds agree when they come to related values and worlds, or
both stop for the same cause. Some causes are excused: where one of the actions stops for such
a cause, nothing is said of the other one. A search agrees with another when their trials do
(`Descent.agree_tryGrids`).
-/

namespace LoopbackCalibration

namespace Action

variable {σ τ ε ε' β β' γ γ' : Type}

/-- What two actions come to, side by side. -/
inductive Matches (excused : ε → Prop) (after : β → γ → σ → τ → Prop) :
    Except ε β × σ → Except ε γ × τ → Prop
  | ok {value other left right} (related : after value other left right) :
      Matches excused after (.ok value, left) (.ok other, right)
  | error (cause left right) : Matches excused after (.error cause, left) (.error cause, right)
  | first {cause left other} (exempt : excused cause) :
      Matches excused after (.error cause, left) other
  | second {cause one right} (exempt : excused cause) :
      Matches excused after one (.error cause, right)

/-- Started in worlds related by `before`, the actions come to values and worlds related by
`after`, or stop for the same cause, or one of them stops for an excused cause. -/
def Agree (excused : ε → Prop) (before : σ → τ → Prop) (first : Action σ ε β)
    (second : Action τ ε γ) (after : β → γ → σ → τ → Prop) : Prop :=
  ∀ left right, before left right → Matches excused after (first left) (second right)

/-- The same value on both sides, in related worlds. -/
def Same (after : σ → τ → Prop) (value other : β) (left : σ) (right : τ) : Prop :=
  value = other ∧ after left right

variable {excused : ε → Prop} {before : σ → τ → Prop} {first : Action σ ε β}
  {second : Action τ ε β'} {after : γ → γ' → σ → τ → Prop}

theorem agree_pure (value : β) :
    Agree excused before (Action.pure value : Action σ ε β) (Action.pure value : Action τ ε β)
      (Same before) :=
  fun _ _ related => .ok ⟨rfl, related⟩

theorem agree_fail {after : β → γ → σ → τ → Prop} (cause : ε) :
    Agree excused before (fail cause : Action σ ε β) (fail cause : Action τ ε γ) after :=
  fun left right _ => .error cause left right

theorem agree_modify {change : σ → σ} {change' : τ → τ} {after : σ → τ → Prop}
    (keeps : ∀ left right, before left right → after (change left) (change' right)) :
    Agree excused before (modify change : Action σ ε Unit) (modify change') (Same after) :=
  fun left right related => .ok ⟨rfl, keeps left right related⟩

/-- Stronger before and weaker after. -/
theorem Agree.weaken {before' : σ → τ → Prop} {after after' : β → β' → σ → τ → Prop}
    (agree : Agree excused before' first second after')
    (start : ∀ left right, before left right → before' left right)
    (good : ∀ value other left right, after' value other left right →
      after value other left right) : Agree excused before first second after := by
  intro left right related
  have reached := agree left right (start left right related)
  generalize first left = one at reached ⊢
  generalize second right = two at reached ⊢
  cases reached with
  | ok related => exact .ok (good _ _ _ _ related)
  | error cause left right => exact .error cause left right
  | first exempt => exact .first exempt
  | second exempt => exact .second exempt

theorem Agree.bind {middle : β → β' → σ → τ → Prop} {next : β → Action σ ε γ}
    {next' : β' → Action τ ε γ'} (begins : Agree excused before first second middle)
    (continues : ∀ value other,
      Agree excused (middle value other) (next value) (next' other) after) :
    Agree excused before (Action.bind first next) (Action.bind second next') after := by
  intro left right related
  have reached := begins left right related
  unfold Action.bind
  generalize first left = one at reached ⊢
  generalize second right = two at reached ⊢
  cases reached with
  | ok related => exact continues _ _ _ _ related
  | error cause left right => exact .error cause left right
  | first exempt => exact .first exempt
  | second exempt => exact .second exempt

/-- The rule for a first action that comes to the same value on both sides. -/
theorem Agree.andThen {second : Action τ ε β} {middle : σ → τ → Prop} {next : β → Action σ ε γ}
    {next' : β → Action τ ε γ'} (begins : Agree excused before first second (Same middle))
    (continues : ∀ value, Agree excused middle (next value) (next' value) after) :
    Agree excused before (Action.bind first next) (Action.bind second next') after := by
  refine begins.bind fun value other left right => ?_
  rintro ⟨rfl, related⟩
  exact continues value left right related

theorem Agree.mapError {excused' : ε' → Prop} {restate : ε → ε'}
    {after : β → β' → σ → τ → Prop} (agree : Agree excused before first second after)
    (exempt : ∀ cause, excused cause → excused' (restate cause)) :
    Agree excused' before (mapError restate first) (mapError restate second) after := by
  intro left right related
  have reached := agree left right related
  unfold Action.mapError
  generalize first left = one at reached ⊢
  generalize second right = two at reached ⊢
  cases reached with
  | ok related => exact .ok related
  | error cause left right => exact .error (restate cause) left right
  | first excuse => exact .first (exempt _ excuse)
  | second excuse => exact .second (exempt _ excuse)

/-- Actions on parts of larger worlds, whose other parts are related by `rest`. -/
theorem Agree.onPart {ρ ρ' : Type} (view : ρ → σ) (view' : ρ' → τ) (update : σ → ρ → ρ)
    (update' : τ → ρ' → ρ') (rest : ρ → ρ' → Prop)
    (reads : ∀ part world, view (update part world) = part)
    (reads' : ∀ part world, view' (update' part world) = part)
    (keeps : ∀ part part' left right, rest left right →
      rest (update part left) (update' part' right))
    {after : β → β' → σ → τ → Prop} (agree : Agree excused before first second after) :
    Agree excused (fun left right => rest left right ∧ before (view left) (view' right))
      (onPart view update first) (onPart view' update' second)
      fun value other left right =>
        rest left right ∧ after value other (view left) (view' right) := by
  rintro left right ⟨others, related⟩
  have reached := agree (view left) (view' right) related
  unfold Action.onPart
  generalize first (view left) = one at reached ⊢
  generalize second (view' right) = two at reached ⊢
  cases reached with
  | ok related => exact .ok ⟨keeps _ _ _ _ others, by rwa [reads, reads']⟩
  | error cause left right => exact .error cause _ _
  | first exempt => exact .first exempt
  | second exempt => exact .second exempt

/-- Elements of a list gone through on both sides. The worlds are related by what is still
ahead. -/
theorem agree_forEach {action : γ → Action σ ε Unit} {action' : γ → Action τ ε Unit}
    (ahead : List γ → σ → τ → Prop) {list : List γ} (rest : List γ)
    (each : ∀ element later,
      Agree excused (ahead (element :: later)) (action element) (action' element)
        (Same (ahead later))) :
    Agree excused (ahead (list ++ rest)) (forEach action list) (forEach action' list)
      (Same (ahead rest)) := by
  induction list with
  | nil => exact agree_pure ()
  | cons element list ih => exact (each element (list ++ rest)).andThen fun _ => ih

end Action

namespace Descent

open Action

variable {σ τ ε α β : Type} [Scalar α] {excused : Halt ε → Prop} {related : σ → τ → Prop}
  {attempt : β → TestPoint α → β → Action σ (Halt ε) β}
  {attempt' : β → TestPoint α → β → Action τ (Halt ε) β}

/-- **Searches that agree.** Two searches agree when all their trials do. -/
theorem agree_tryGrids
    (each : ∀ start point found, Agree excused related (attempt start point found)
      (attempt' start point found) (Same related)) (grids : List Grid) (found : β) :
    Agree excused related (tryGrids attempt grids found) (tryGrids attempt' grids found)
      (Same related) := by
  have points : ∀ grid start ahead found, Agree excused related
      (tryPoints grid (attempt start) ahead found) (tryPoints grid (attempt' start) ahead found)
      (Same related) := by
    intro grid start ahead
    induction ahead with
    | zero => exact fun found => agree_pure found
    | succ ahead ih => exact fun found => (each start _ found).andThen ih
  induction grids generalizing found with
  | nil => exact agree_pure found
  | cons grid rest ih =>
      refine Agree.andThen ?_ ih
      unfold tryGrid
      split
      · exact points grid found grid.size found
      · exact agree_fail _

end Descent

end LoopbackCalibration
