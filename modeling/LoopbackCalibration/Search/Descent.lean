import LoopbackCalibration.Action
import LoopbackCalibration.Search.Grid

/-! # Descent through test grids

A descent visits a list of grids. At the start of a grid it takes a snapshot of
what has been found, and every point of that grid is tried against the snapshot,
never against something found on the same grid. What a trial does is up to the
search; it may fail, and then nothing further is tried.
-/

namespace LoopbackCalibration

namespace Descent

variable {σ ε α β : Type} [Scalar α]

/-- Try the points of a grid that are still ahead, given how many they are. -/
def tryPoints (grid : Grid) (attempt : TestPoint α → β → Action σ (Halt ε) β) :
    Nat → β → Action σ (Halt ε) β
  | 0, found => Action.pure found
  | ahead + 1, found =>
    Action.bind (attempt (grid.point (grid.size - (ahead + 1))) found)
      fun found => tryPoints grid attempt ahead found

/-- Try every point of a grid against what was found before it. -/
def tryGrid (attempt : β → TestPoint α → β → Action σ (Halt ε) β) (grid : Grid) (found : β) :
    Action σ (Halt ε) β :=
  if grid.fits then
    tryPoints grid (attempt found) grid.size found
  else
    Action.fail .overflow

/-- Try the grids of a list, first to last. -/
def tryGrids (attempt : β → TestPoint α → β → Action σ (Halt ε) β) :
    List Grid → β → Action σ (Halt ε) β
  | [], found => Action.pure found
  | grid :: rest, found =>
    Action.bind (tryGrid attempt grid found) fun found => tryGrids attempt rest found

end Descent

end LoopbackCalibration
