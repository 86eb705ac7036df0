import Mathlib.Logic.Function.Iterate
import LoopbackCalibration.Proofs.Search.Convergence

/-! # The points of a grid

A cursor on a grid gives every point of it once, in order, and then none for good; cursors on
the same grid do not disturb each other (`Grid.Cursor.get_stepEach`). A point pairs two values of
one axis, in opposite roles for the two deltas. In exact arithmetic the values of an axis of at
least two steps rise from the negative to the positive half-width and mirror each other, so that
the points are distinct, fill the square and mirror each other as well.
-/

namespace LoopbackCalibration

open Arithmetic

namespace Grid

namespace Cursor

variable {α ι : Type} [Scalar α]

/-- The cursor after so many calls of `step`. -/
def after (α : Type) [Scalar α] (cursor : Cursor) (calls : Nat) : Cursor :=
  (fun cursor => (cursor.step (α := α)).2)^[calls] cursor

theorem after_add (cursor : Cursor) (first second : Nat) :
    cursor.after α (first + second) = (cursor.after α first).after α second := by
  rw [after, Nat.add_comm, Function.iterate_add_apply, ← after, ← after]

/-- A cursor has passed as many points as it was called for, as far as there are any. -/
theorem after_start (grid : Grid) (calls : Nat) :
    grid.start.after α calls = ⟨grid, min calls grid.size⟩ := by
  induction calls with
  | zero => rw [Nat.zero_min, after, Function.iterate_zero_apply, start]
  | succ calls ih =>
      rw [after, Function.iterate_succ_apply', ← after, ih, step]
      by_cases ahead : min calls grid.size < grid.size
      · rw [if_pos ahead, show min (calls + 1) grid.size = min calls grid.size + 1 by omega]
      · rw [if_neg ahead, show min (calls + 1) grid.size = min calls grid.size by omega]

theorem step_after_start (grid : Grid) (calls : Nat) :
    ((grid.start.after α calls).step (α := α)).1 =
      if calls < grid.size then some (grid.point calls) else none := by
  rw [after_start, step]
  by_cases ahead : calls < grid.size
  · rw [Nat.min_eq_left ahead.le, if_pos ahead, if_pos ahead]
  · rw [Nat.min_eq_right (not_lt.mp ahead), if_neg (lt_irrefl _), if_neg ahead]

/-- Call cursors, one call after the other, each time the one under the given handle. -/
def stepEach (α : Type) [Scalar α] [DecidableEq ι] :
    (ι → Cursor) → List ι → List (Option (TestPoint α)) × (ι → Cursor)
  | cursors, [] => ([], cursors)
  | cursors, handle :: rest =>
    let (answer, cursor) := (cursors handle).step
    let (answers, last) := stepEach α (Function.update cursors handle cursor) rest
    (answer :: answers, last)

variable [DecidableEq ι]

theorem stepEach_cons (cursors : ι → Cursor) (handle : ι) (rest : List ι) :
    stepEach α cursors (handle :: rest) =
      (((cursors handle).step).1 ::
          (stepEach α (Function.update cursors handle ((cursors handle).after α 1)) rest).1,
        (stepEach α (Function.update cursors handle ((cursors handle).after α 1)) rest).2) :=
  rfl

/-- The cursor that a call leaves under a handle. -/
private theorem after_update (cursors : ι → Cursor) (called handle : ι) (rest : List ι) :
    (Function.update cursors called ((cursors called).after α 1) handle).after α
        (rest.count handle) =
      (cursors handle).after α ((called :: rest).count handle) := by
  by_cases own : called = handle
  · subst own
    rw [Function.update_self, ← after_add, List.count_cons_self, Nat.add_comm]
  · rw [Function.update_of_ne (Ne.symm own), List.count_cons_of_ne own]

/-- **Cursors are independent.** Under each handle there is in the end the cursor that was called
as often as this handle was used. -/
theorem get_stepEach (cursors : ι → Cursor) (calls : List ι) (handle : ι) :
    (stepEach α cursors calls).2 handle = (cursors handle).after α (calls.count handle) := by
  induction calls generalizing cursors with
  | nil => rfl
  | cons called rest ih => rw [stepEach_cons, ih, after_update]

/-- Each call is answered as if only its own handle had been used. -/
theorem answer_stepEach (cursors : ι → Cursor) (calls : List ι) {turn : Nat} {handle : ι}
    (called : calls[turn]? = some handle) :
    (stepEach α cursors calls).1[turn]? =
      some (((cursors handle).after α ((calls.take turn).count handle)).step).1 := by
  induction calls generalizing cursors turn with
  | nil => cases called
  | cons first rest ih =>
      cases turn with
      | zero =>
          cases called
          rfl
      | succ turn =>
          rw [stepEach_cons, List.getElem?_cons_succ, ih _ called, List.take_succ_cons,
            after_update]

end Cursor

/-- The two axis positions of a point. -/
theorem div_mod_lt {grid : Grid} {index : Nat} (within : index < grid.size) :
    0 < grid.steps ∧ index / grid.steps < grid.steps ∧ index % grid.steps < grid.steps := by
  have positive : 0 < grid.steps := by
    apply Nat.pos_of_ne_zero
    intro none
    rw [size, none] at within
    exact Nat.not_lt_zero _ within
  exact ⟨positive, Nat.div_lt_of_lt_mul within, Nat.mod_lt _ positive⟩

/-- A point has the axis positions that it is counted by. -/
theorem div_mod_eq {grid : Grid} (first : Nat) {second : Nat} (within : second < grid.steps) :
    (first * grid.steps + second) / grid.steps = first ∧
      (first * grid.steps + second) % grid.steps = second := by
  constructor
  · rw [Nat.mul_comm, Nat.mul_add_div (by omega), Nat.div_eq_of_lt within, Nat.add_zero]
  · rw [Nat.mul_comm, Nat.mul_add_mod, Nat.mod_eq_of_lt within]

/-- The point at two axis positions. -/
theorem point_eq {α : Type} [Scalar α] {grid : Grid} (first : Nat) {second : Nat}
    (within : second < grid.steps) :
    (grid.point (first * grid.steps + second) : TestPoint α) =
      ⟨⟨grid.coordinate first, grid.coordinate second⟩,
        .ofPolar (Scalar.exp2 (grid.coordinate second))
          (Scalar.pi / two * grid.coordinate first)⟩ := by
  obtain ⟨slow, fast⟩ := div_mod_eq first within
  rw [point, dc, iq, outer, inner, slow, fast]

/-- Counted from the end, a point has its axis positions counted from the end. -/
theorem div_mod_reflect {grid : Grid} {index : Nat} (within : index < grid.size) :
    (grid.size - 1 - index) / grid.steps = grid.steps - 1 - index / grid.steps ∧
      (grid.size - 1 - index) % grid.steps = grid.steps - 1 - index % grid.steps := by
  obtain ⟨positive, slow, fast⟩ := div_mod_lt within
  have square : (grid.steps - 1 - index / grid.steps) * grid.steps +
      grid.steps * (index / grid.steps) + grid.steps = grid.size := by
    calc (grid.steps - 1 - index / grid.steps) * grid.steps +
          grid.steps * (index / grid.steps) + grid.steps
        = (grid.steps - 1 - index / grid.steps + index / grid.steps + 1) * grid.steps := by ring
      _ = grid.size := by
        rw [size, show grid.steps - 1 - index / grid.steps + index / grid.steps + 1 = grid.steps by
          omega]
  have decoded := Nat.div_add_mod index grid.steps
  have mirrored : grid.size - 1 - index =
      (grid.steps - 1 - index / grid.steps) * grid.steps +
        (grid.steps - 1 - index % grid.steps) := by
    omega
  rw [mirrored]
  exact div_mod_eq _ (by omega)

section Exact

variable {grid : Grid}

theorem strictMono_coordinate (steps : 2 ≤ grid.steps) :
    StrictMono (grid.coordinate : Nat → ℝ) := by
  have width : (0 : ℝ) < 2⁻¹ ^ grid.depth := by positivity
  have last : (0 : ℝ) < (grid.steps - 1 : ℕ) := Nat.cast_pos.mpr (by omega)
  intro first second less
  rw [coordinate_eq steps, coordinate_eq steps]
  have grows : (first / (grid.steps - 1 : ℕ) : ℝ) < second / (grid.steps - 1 : ℕ) :=
    div_lt_div_of_pos_right (Nat.cast_lt.mpr less) last
  nlinarith

theorem coordinate_zero (steps : 2 ≤ grid.steps) : (grid.coordinate 0 : ℝ) = -2⁻¹ ^ grid.depth := by
  rw [coordinate_eq steps, Nat.cast_zero, zero_div, mul_zero, add_zero]

/-- The values of an axis mirror each other. -/
theorem coordinate_reflect (steps : 2 ≤ grid.steps) {index : Nat} (within : index < grid.steps) :
    (grid.coordinate (grid.steps - 1 - index) : ℝ) = -grid.coordinate index := by
  have last : ((grid.steps - 1 : ℕ) : ℝ) ≠ 0 := Nat.cast_ne_zero.mpr (by omega)
  rw [coordinate_eq steps, coordinate_eq steps, Nat.cast_sub (by omega), sub_div, div_self last]
  ring

/-- An axis passes through zero where it has a middle. -/
theorem coordinate_eq_zero_iff (steps : 2 ≤ grid.steps) {index : Nat}
    (within : index < grid.steps) :
    (grid.coordinate index : ℝ) = 0 ↔ index = grid.steps - 1 - index := by
  rw [← (strictMono_coordinate steps).injective.eq_iff, coordinate_reflect steps within]
  exact self_eq_neg.symm

/-- A point is known by its additive delta. -/
theorem dc_injOn (steps : 2 ≤ grid.steps) :
    Set.InjOn (grid.dc : Nat → Phasor ℝ) (Set.Iio grid.size) := by
  intro first _ second _ same
  have injective := (strictMono_coordinate steps).injective
  have slow : first / grid.steps = second / grid.steps := injective (congrArg Phasor.re same)
  have fast : first % grid.steps = second % grid.steps := injective (congrArg Phasor.im same)
  rw [← Nat.div_add_mod first grid.steps, slow, fast, Nat.div_add_mod]

/-- The grid mirrors itself. -/
theorem reflect (steps : 2 ≤ grid.steps) {index : Nat} (within : index < grid.size) :
    (grid.outer (grid.size - 1 - index) : ℝ) = -grid.outer index ∧
      (grid.inner (grid.size - 1 - index) : ℝ) = -grid.inner index := by
  obtain ⟨-, slow, fast⟩ := div_mod_lt within
  obtain ⟨mirroredSlow, mirroredFast⟩ := div_mod_reflect within
  constructor
  · rw [outer, mirroredSlow, coordinate_reflect steps slow, ← outer]
  · rw [inner, mirroredFast, coordinate_reflect steps fast, ← inner]

/-- The grid has a point that changes nothing exactly when its axes have a middle. -/
theorem exists_neutral_iff (steps : 2 ≤ grid.steps) :
    (∃ index < grid.size, (grid.point index : TestPoint ℝ) = ⟨.zero, .one⟩) ↔ Odd grid.steps := by
  constructor
  · rintro ⟨index, within, neutral⟩
    obtain ⟨-, -, fast⟩ := div_mod_lt within
    have still : (grid.coordinate (index % grid.steps) : ℝ) = 0 :=
      congrArg (fun point : TestPoint ℝ => point.dc.im) neutral
    have middle := (coordinate_eq_zero_iff steps fast).mp still
    exact ⟨index % grid.steps, by omega⟩
  · rintro ⟨middle, odd⟩
    have within : middle < grid.steps := by omega
    have still : (grid.coordinate middle : ℝ) = 0 :=
      (coordinate_eq_zero_iff steps within).mpr (by omega)
    have one : (Phasor.ofPolar (Scalar.exp2 0) (Scalar.pi / two * 0) : Phasor ℝ) = .one := by
      change Phasor.mk ((2 : ℝ) ^ (0 : ℝ) * Real.cos (Real.pi / (1 + 1) * 0))
        ((2 : ℝ) ^ (0 : ℝ) * Real.sin (Real.pi / (1 + 1) * 0)) = .mk 1 0
      rw [mul_zero, Real.cos_zero, Real.sin_zero, Real.rpow_zero, mul_one, mul_zero]
    refine ⟨middle * grid.steps + middle, ?_, ?_⟩
    · rw [size]
      nlinarith
    · rw [point_eq middle within, still, one]
      rfl

end Exact

/-- **A grid is enumerated exactly.** When its points can be counted, a cursor gives each of
them once, in order, and then none for good; it always knows how many are left, and cursors that
were copied at any time go on alone. The positions on both axes that a point is decoded into are
in range, also with fewer than two steps, and the point pairs the values there in opposite
roles. In exact arithmetic and with two steps at least, the values of an axis rise from the
negative to the positive half-width, the points are distinct and lie in the square of the
half-width, the point at the same distance from the end has both values negated, and a point
that changes nothing is among them exactly when the number of steps is odd. -/
theorem enumerated (α : Type) [Scalar α] (grid : Grid) (fits : grid.fits) :
    (∀ calls, ((grid.start.after α calls).step (α := α)).1 =
      if calls < grid.size then some (grid.point calls) else none) ∧
    (∀ calls, (grid.start.after α calls).remaining? = some (grid.size - min calls grid.size)) ∧
    (∀ (ι : Type) [DecidableEq ι] (earlier : ι → Nat) (calls : List ι),
      let run := Cursor.stepEach α (fun handle => grid.start.after α (earlier handle)) calls
      (∀ turn handle, calls[turn]? = some handle →
        run.1[turn]? = some ((grid.start.after α
          (earlier handle + (calls.take turn).count handle)).step).1) ∧
      ∀ handle, run.2 handle = grid.start.after α (earlier handle + calls.count handle)) ∧
    (∀ index < grid.size,
      0 < grid.steps ∧ index / grid.steps < grid.steps ∧ index % grid.steps < grid.steps) ∧
    (∀ first < grid.steps, ∀ second < grid.steps,
      (grid.point (first * grid.steps + second) : TestPoint α) =
        ⟨⟨grid.coordinate first, grid.coordinate second⟩,
          .ofPolar (Scalar.exp2 (grid.coordinate second))
            (Scalar.pi / two * grid.coordinate first)⟩) ∧
    (grid.steps < 2 → ∀ index < grid.size, (grid.dc index : Phasor α) =
      ⟨-grid.halfWidth, -grid.halfWidth⟩) ∧
    (2 ≤ grid.steps →
      StrictMono (grid.coordinate : Nat → ℝ) ∧
      (grid.coordinate 0 : ℝ) = -2⁻¹ ^ grid.depth ∧
      (grid.coordinate (grid.steps - 1) : ℝ) = 2⁻¹ ^ grid.depth ∧
      Set.InjOn (grid.dc : Nat → Phasor ℝ) (Set.Iio grid.size) ∧
      (∀ index < grid.size, |(grid.dc index : Phasor ℝ).re| ≤ 2⁻¹ ^ grid.depth ∧
        |(grid.dc index : Phasor ℝ).im| ≤ 2⁻¹ ^ grid.depth) ∧
      (∀ index < grid.size,
        (grid.dc (grid.size - 1 - index) : Phasor ℝ) = -grid.dc index ∧
        (grid.iq (grid.size - 1 - index) : Phasor ℝ) =
          .ofPolar (Scalar.exp2 (-grid.inner index)) (Scalar.pi / two * -grid.outer index)) ∧
      ((∃ index < grid.size, (grid.point index : TestPoint ℝ) = ⟨.zero, .one⟩) ↔
        Odd grid.steps)) := by
  refine ⟨Cursor.step_after_start grid, ?_, ?_, fun _ => div_mod_lt, ?_, ?_, ?_⟩
  · intro calls
    rw [Cursor.after_start, Cursor.remaining?, if_pos fits]
  · intro ι _ earlier calls run
    constructor
    · intro turn handle called
      rw [Cursor.answer_stepEach _ _ called, Cursor.after_add]
    · intro handle
      rw [Cursor.get_stepEach, Cursor.after_add]
  · intro first _ second within
    exact point_eq first within
  · intro few index _
    rw [dc, outer, inner, coordinate, coordinate, if_pos few, if_pos few]
  · intro steps
    refine ⟨strictMono_coordinate steps, coordinate_zero steps, ?_, dc_injOn steps,
      fun _ => abs_dc_le steps, ?_, exists_neutral_iff steps⟩
    · have start : 0 < grid.steps := by omega
      have last := coordinate_reflect steps start
      rwa [Nat.sub_zero, coordinate_zero steps, neg_neg] at last
    · intro index within
      obtain ⟨slow, fast⟩ := reflect steps within
      constructor
      · rw [dc, slow, fast]
        rfl
      · rw [iq, slow, fast]

/-- Of three steps for each axis, five points are left after four calls, none after nine, and
one point changes nothing. -/
theorem enumerated_three :
    (⟨2, 3⟩ : Grid).fits ∧
      ((⟨2, 3⟩ : Grid).start.after ℝ 4).remaining? = some 5 ∧
      (((⟨2, 3⟩ : Grid).start.after ℝ 9).step (α := ℝ)).1 = none ∧
      ∃ index < 9, ((⟨2, 3⟩ : Grid).point index : TestPoint ℝ) = ⟨.zero, .one⟩ := by
  obtain ⟨points, left, -, -, -, -, exact⟩ := enumerated ℝ ⟨2, 3⟩ rfl
  obtain ⟨-, -, -, -, -, -, neutral⟩ := exact (by decide)
  exact ⟨rfl, left 4, points 9, neutral.mpr ⟨1, rfl⟩⟩

end Grid

end LoopbackCalibration
