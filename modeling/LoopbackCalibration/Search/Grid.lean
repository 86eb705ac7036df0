import LoopbackCalibration.Phasor

/-! # Test grids

At depth `d` a search tries the points of a square grid whose half-width is
`2^-d`. A point is an additive delta whose real part runs slowest, paired with a
multiplicative delta whose angle runs slowest and whose power of two runs
fastest. The two are paired by position, so a grid of `n` steps per axis has `n²`
points. A `Cursor` walks over them in order.
-/

namespace LoopbackCalibration

/-- A grid of test points. -/
structure Grid where
  /-- How often the half-width is halved from one. -/
  depth : Nat
  /-- Points per axis. -/
  steps : Nat
  deriving Repr, DecidableEq

/-- One candidate: an additive and a multiplicative delta tried together. -/
structure TestPoint (α : Type) where
  dc : Phasor α
  iq : Phasor α
  deriving Repr, DecidableEq

namespace Grid

/-- How many points a grid has. -/
def size (grid : Grid) : Nat := grid.steps * grid.steps

/-- Whether the number of points fits a machine word. -/
def fits (grid : Grid) : Bool := decide (grid.size < 2 ^ (64 : Nat))

section Exact

variable {α : Type} [Arithmetic α]

/-- How far a grid reaches on each side of its middle: it halves with every depth. -/
def halfWidth (grid : Grid) : α := Arithmetic.halvings grid.depth

/-- One of the evenly spaced values from the negative to the positive half-width; a
grid of fewer than two steps has the negative half-width alone. -/
def coordinate (grid : Grid) (index : Nat) : α :=
  if grid.steps < 2 then
    -grid.halfWidth
  else
    -grid.halfWidth + Arithmetic.two * grid.halfWidth * Arithmetic.ofCount index /
      Arithmetic.ofCount (grid.steps - 1)

/-- The coordinate of a point on the slow axis. -/
def outer (grid : Grid) (index : Nat) : α := grid.coordinate (index / grid.steps)

/-- The coordinate of a point on the fast axis. -/
def inner (grid : Grid) (index : Nat) : α := grid.coordinate (index % grid.steps)

/-- The additive delta of a point: the slow coordinate and the fast one. -/
def dc (grid : Grid) (index : Nat) : Phasor α := ⟨grid.outer index, grid.inner index⟩

end Exact

variable {α : Type} [Scalar α]

/-- The multiplicative delta of a point: a quarter turn times the slow coordinate, and
two to the power of the fast one. -/
def iq (grid : Grid) (index : Nat) : Phasor α :=
  .ofPolar (Scalar.exp2 (grid.inner index)) (Scalar.pi / Arithmetic.two * grid.outer index)

/-- The point of a grid at an index. -/
def point (grid : Grid) (index : Nat) : TestPoint α := ⟨grid.dc index, grid.iq index⟩

/-- A place in the walk over a grid. -/
structure Cursor where
  grid : Grid
  next : Nat
  deriving Repr, DecidableEq

/-- The walk over a grid before its first point. -/
def start (grid : Grid) : Cursor := ⟨grid, 0⟩

namespace Cursor

/-- Points still ahead, unless their number does not fit a machine word. -/
def remaining? (cursor : Cursor) : Option Nat :=
  if cursor.grid.fits then some (cursor.grid.size - cursor.next) else none

/-- The next point, if there is one, and the cursor behind it. -/
def step (cursor : Cursor) : Option (TestPoint α) × Cursor :=
  if cursor.next < cursor.grid.size then
    (some (cursor.grid.point cursor.next), { cursor with next := cursor.next + 1 })
  else
    (none, cursor)

/-- The points still ahead, in order. -/
def rest (cursor : Cursor) : List (TestPoint α) :=
  (List.range' cursor.next (cursor.grid.size - cursor.next)).map cursor.grid.point

/-- The last point of the grid, unless the walk is over. -/
def last? (cursor : Cursor) : Option (TestPoint α) :=
  if cursor.next < cursor.grid.size then
    some (cursor.grid.point (cursor.grid.size - 1))
  else
    none

/-- The cursor behind the last point. -/
def finish (cursor : Cursor) : Cursor :=
  { cursor with next := max cursor.next cursor.grid.size }

end Cursor

end Grid

end LoopbackCalibration
