/-! # Actions

An action takes a world to a result and to the world it leaves behind, and it
leaves one behind also when it fails. What stops an action is either an error it
reports or a quantity that leaves the range of its machine word.
-/

namespace LoopbackCalibration

/-- A computation on a world that may fail. -/
def Action (σ ε β : Type) : Type := σ → Except ε β × σ

/-- What stops a computation. -/
inductive Halt (ε : Type) where
  | error (cause : ε)
  /-- A quantity leaves the range of its machine word. -/
  | overflow
  deriving Repr, DecidableEq

/-- The same halt with its error restated. -/
def Halt.map {ε ε' : Type} (restate : ε → ε') : Halt ε → Halt ε'
  | .error cause => .error (restate cause)
  | .overflow => .overflow

namespace Action

variable {σ τ ε ε' β γ : Type}

/-- Give a value and leave the world alone. -/
@[inline] protected def pure (value : β) : Action σ ε β :=
  fun world => (.ok value, world)

/-- Continue with the value and the world of a first action; stop if it fails. -/
@[inline] protected def bind (first : Action σ ε β) (next : β → Action σ ε γ) : Action σ ε γ :=
  fun world =>
    match first world with
    | (.ok value, after) => next value after
    | (.error cause, after) => (.error cause, after)

@[inline] instance : Monad (Action σ ε) where
  pure := Action.pure
  bind := Action.bind

/-- Stop for a cause and leave the world alone. -/
@[inline] def fail (cause : ε) : Action σ ε β :=
  fun world => (.error cause, world)

/-- The action with its errors restated. -/
@[inline] def mapError (restate : ε → ε') (action : Action σ ε β) : Action σ ε' β :=
  fun world =>
    match action world with
    | (.ok value, after) => (.ok value, after)
    | (.error cause, after) => (.error (restate cause), after)

/-- The action on the part of a larger world that `view` reads and `update` replaces. -/
@[inline] def onPart (view : τ → σ) (update : σ → τ → τ) (action : Action σ ε β) :
    Action τ ε β :=
  fun world =>
    match action (view world) with
    | (result, after) => (result, update after world)

/-- Change the world; this cannot fail. -/
@[inline] def modify (change : σ → σ) : Action σ ε Unit :=
  fun world => (.ok (), change world)

/-- Do an action with each element of a list in order, up to the first that fails. -/
def forEach (action : β → Action σ ε Unit) : List β → Action σ ε Unit
  | [] => Action.pure ()
  | element :: rest => Action.bind (action element) fun _ => forEach action rest

theorem bind_ok {first : Action σ ε β} {next : β → Action σ ε γ} {world after : σ} {value : β}
    (result : first world = (.ok value, after)) : (first >>= next) world = next value after := by
  change Action.bind first next world = next value after
  rw [Action.bind, result]

theorem bind_error {first : Action σ ε β} {next : β → Action σ ε γ} {world after : σ} {cause : ε}
    (result : first world = (.error cause, after)) :
    (first >>= next) world = (.error cause, after) := by
  change Action.bind first next world = (.error cause, after)
  rw [Action.bind, result]

theorem bind_eq_ok_iff {first : Action σ ε β} {next : β → Action σ ε γ} {world after : σ}
    {value : γ} :
    (first >>= next) world = (.ok value, after) ↔
      ∃ middle between, first world = (.ok middle, between) ∧
        next middle between = (.ok value, after) := by
  constructor
  · intro succeeds
    match begun : first world with
    | (.error cause, between) =>
      rw [bind_error begun] at succeeds
      cases succeeds
    | (.ok middle, between) =>
      rw [bind_ok begun] at succeeds
      exact ⟨middle, between, rfl, succeeds⟩
  · rintro ⟨middle, between, begun, ends⟩
    rw [bind_ok begun, ends]

end Action

end LoopbackCalibration
