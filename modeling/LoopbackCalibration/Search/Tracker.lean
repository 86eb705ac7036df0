import LoopbackCalibration.Channel
import LoopbackCalibration.Correction

/-! # Best corrections so far

A tracker keeps the best correction offered to it. An offer replaces the best only
when its level is strictly lower, so of equal levels the earliest stays, and a
level that is not a number never wins. A search state has a tracker per channel.
-/

namespace LoopbackCalibration

/-- The best correction seen for one channel of one search. -/
structure BestTracker (α : Type) where
  correction : Phasor α
  /-- The level measured with it; none before the first offer that was taken. -/
  level : Option α
  updates : Nat
  deriving Repr, DecidableEq

namespace BestTracker

variable {α : Type}

/-- A tracker that no offer was made to. -/
def initial (correction : Phasor α) : BestTracker α := ⟨correction, none, 0⟩

variable [Arithmetic α]

/-- Whether a level beats the best one. Any number below infinity beats none. -/
def improvedBy (best : BestTracker α) (level : α) : Bool :=
  match best.level with
  | none => Arithmetic.belowInfinity level
  | some lowest => decide (level < lowest)

/-- The tracker after an offer, which is taken only if its level is an improvement. -/
def offer (best : BestTracker α) (candidate : Phasor α) (level : α) : BestTracker α :=
  if best.improvedBy level then ⟨candidate, some level, best.updates + 1⟩ else best

end BestTracker

/-- The best corrections of one kind on both channels. -/
structure SearchState (α : Type) where
  kind : CorrectionKind
  best : PerChannel (BestTracker α)
  deriving Repr, DecidableEq

namespace SearchState

variable {α : Type} [Arithmetic α]

/-- Both channels at the identity of a kind. -/
def initial (kind : CorrectionKind) : SearchState α :=
  ⟨kind, .both (.initial kind.identity)⟩

/-- The best correction of each channel. -/
def corrections (state : SearchState α) : PerChannel (Phasor α) :=
  state.best.map BestTracker.correction

/-- The level of each channel's best correction, once there is one. -/
def levels (state : SearchState α) : PerChannel (Option α) :=
  state.best.map BestTracker.level

/-- How often the correction of each channel has improved. -/
def updates (state : SearchState α) : PerChannel Nat :=
  state.best.map BestTracker.updates

/-- An offer of this level would be taken on the channel. -/
def improvedBy (state : SearchState α) (channel : Channel) (level : α) : Bool :=
  (state.best.get channel).improvedBy level

/-- The search after an offer on one channel. -/
def offer (state : SearchState α) (channel : Channel) (candidate : Phasor α) (level : α) :
    SearchState α :=
  { state with best := state.best.set channel ((state.best.get channel).offer candidate level) }

/-- The search after an offer on each channel. -/
def offerBoth (state : SearchState α) (candidates : PerChannel (Phasor α))
    (levels : PerChannel α) : SearchState α :=
  Channel.all.foldl (fun state channel =>
    state.offer channel (candidates.get channel) (levels.get channel)) state

end SearchState

/-- The outcome of a search on both channels. -/
structure CorrectionResult (α : Type) where
  kind : CorrectionKind
  correction : PerChannel (Phasor α)
  /-- Level measured with it; none when no candidate was ever taken. -/
  level : PerChannel (Option α)
  updates : PerChannel Nat
  deriving Repr, DecidableEq

/-- What a search reports. -/
def SearchState.result {α : Type} [Arithmetic α] (state : SearchState α) : CorrectionResult α :=
  ⟨state.kind, state.corrections, state.levels, state.updates⟩

end LoopbackCalibration
