import LoopbackCalibration.Proofs.Scalar.Exact
import LoopbackCalibration.Proofs.Scalar.Polar
import LoopbackCalibration.Proofs.Search.Convergence

/-! # How far a search gets

Whatever levels a search meets, each correction that it tries refines the identity by
points of its grids, at most one of each grid and in the order of the grids (`Reaches`).
In exact arithmetic such a correction lies no farther out on an axis than the half-widths
of the grids add up to (`Grid.span`), which for halved half-widths is less than twice the
first one. As long as that is at most one, the bound on an offset does nothing, and the
angle of an IQ correction is the sum of the angles that were picked.
-/

namespace LoopbackCalibration

open Arithmetic

namespace Grid

/-- A point picked from a grid. -/
structure Pick where
  grid : Grid
  index : Nat
  within : index < grid.size

/-- What the half-widths of grids add up to. -/
noncomputable def span (grids : List Grid) : ℝ :=
  (grids.map fun grid => (grid.halfWidth : ℝ)).sum

theorem halfWidth_nonneg (grid : Grid) : 0 ≤ (grid.halfWidth : ℝ) := by
  change (0 : ℝ) ≤ 2⁻¹ ^ grid.depth
  positivity

theorem span_append (earlier later : List Grid) :
    span (earlier ++ later) = span earlier + span later := by
  unfold span
  rw [List.map_append, List.sum_append]

theorem span_singleton (grid : Grid) : span [grid] = grid.halfWidth :=
  List.sum_singleton

/-- Fewer grids span less. -/
theorem span_le_span {fewer grids : List Grid} (sublist : fewer.Sublist grids) :
    span fewer ≤ span grids := by
  apply (sublist.map _).sum_le_sum
  intro width member
  obtain ⟨grid, -, rfl⟩ := List.mem_map.mp member
  exact grid.halfWidth_nonneg

/-- Halved half-widths add up to less than twice the first one. -/
theorem span_ladder (steps depth count : Nat) :
    span (ladder steps depth count) = 2 * 2⁻¹ ^ depth - 2 * 2⁻¹ ^ (depth + count) := by
  induction count generalizing depth with
  | zero =>
      rw [Nat.add_zero, sub_self]
      rfl
  | succ count ih =>
      have first : ((⟨depth, steps⟩ : Grid).halfWidth : ℝ) = 2⁻¹ ^ depth := rfl
      rw [ladder_succ, ← List.singleton_append, span_append, span_singleton, ih, first,
        Nat.add_right_comm, ← Nat.add_assoc, pow_succ]
      ring

end Grid

open Grid

section Picks

variable {α : Type} [Scalar α]

/-- The delta by which a picked point refines a correction of a kind. -/
def Grid.Pick.delta (pick : Pick) (kind : CorrectionKind) : Phasor α :=
  kind.delta (pick.grid.point pick.index)

/-- The identity of a kind refined by picked points, first to last. -/
def CorrectionKind.refineAll (kind : CorrectionKind) (picks : List Pick) : Phasor α :=
  picks.foldl (fun base pick => kind.refine base (pick.delta kind)) kind.identity

theorem CorrectionKind.refineAll_concat (kind : CorrectionKind) (picks : List Pick)
    (last : Pick) :
    (kind.refineAll (picks ++ [last]) : Phasor α) =
      kind.refine (kind.refineAll picks) (last.delta kind) :=
  List.foldl_concat ..

/-- Whether a correction of a kind is its identity refined by points of listed grids, at
most one of each and in the order of the list. -/
def Reaches (kind : CorrectionKind) (grids : List Grid) (value : Phasor α) : Prop :=
  ∃ picks : List Pick, (picks.map Pick.grid).Sublist grids ∧ value = kind.refineAll picks

theorem reaches_identity (kind : CorrectionKind) (grids : List Grid) :
    Reaches kind grids (kind.identity : Phasor α) :=
  ⟨[], List.nil_sublist grids, rfl⟩

variable {kind : CorrectionKind} {grids : List Grid} {value : Phasor α}

theorem Reaches.mono {more : List Grid} (reaches : Reaches kind grids value)
    (sublist : grids.Sublist more) : Reaches kind more value := by
  obtain ⟨picks, listed, rfl⟩ := reaches
  exact ⟨picks, listed.trans sublist, rfl⟩

/-- One more grid refines by one more point. -/
theorem Reaches.refine (reaches : Reaches kind grids value) {grid : Grid} {index : Nat}
    (within : index < grid.size) :
    Reaches kind (grids ++ [grid]) (kind.refine value (kind.delta (grid.point index))) := by
  obtain ⟨picks, listed, rfl⟩ := reaches
  refine ⟨picks ++ [⟨grid, index, within⟩], ?_, ?_⟩
  · rw [List.map_append]
    exact listed.append (List.Sublist.refl [grid])
  · rw [CorrectionKind.refineAll_concat]
    rfl

/-- Scalars that hold the reals reach what the reals reach. -/
theorem CorrectionKind.refineAll_eq_ofReal [Scalar.Exact α] (kind : CorrectionKind)
    (picks : List Pick) :
    (kind.refineAll picks : Phasor α) = .ofReal (kind.refineAll picks) := by
  induction picks using List.reverseRecOn with
  | nil => exact kind.identity_eq_ofReal
  | append_singleton picks last ih =>
      have delta : (last.delta kind : Phasor α) = .ofReal (last.delta kind) :=
        last.grid.delta_eq_ofReal kind last.index
      rw [refineAll_concat, refineAll_concat, ih, delta, kind.refine_ofReal]

end Picks

/-- Grids of at least two steps that span at most one. -/
structure Narrow (grids : List Grid) : Prop where
  steps : ∀ grid ∈ grids, 2 ≤ grid.steps
  span : span grids ≤ 1

theorem Narrow.sublist {fewer grids : List Grid} (narrow : Narrow grids)
    (sublist : fewer.Sublist grids) : Narrow fewer where
  steps grid member := narrow.steps grid (sublist.subset member)
  span := (span_le_span sublist).trans narrow.span

/-- The sums of the coordinates of picked points on the two axes. -/
noncomputable def position (picks : List Pick) : Phasor ℝ :=
  ⟨(picks.map fun pick => (pick.grid.outer pick.index : ℝ)).sum,
    (picks.map fun pick => (pick.grid.inner pick.index : ℝ)).sum⟩

theorem position_concat (picks : List Pick) (last : Pick) :
    position (picks ++ [last]) =
      ⟨(position picks).re + last.grid.outer last.index,
        (position picks).im + last.grid.inner last.index⟩ := by
  unfold position
  simp only [List.map_append, List.map_cons, List.map_nil, List.sum_append, List.sum_singleton]

/-- Points of grids of at least two steps lie no farther out than the grids span. -/
theorem abs_position_le {picks : List Pick} (narrow : Narrow (picks.map Pick.grid)) :
    |(position picks).re| ≤ span (picks.map Pick.grid) ∧
      |(position picks).im| ≤ span (picks.map Pick.grid) := by
  induction picks using List.reverseRecOn with
  | nil => simp [position, span]
  | append_singleton picks last ih =>
      rw [List.map_append] at narrow
      obtain ⟨re, im⟩ := ih (narrow.sublist (List.sublist_append_left _ _))
      obtain ⟨outer, inner⟩ := abs_dc_le (narrow.steps last.grid (by simp)) last.within
      rw [position_concat, List.map_append, List.map_singleton, span_append, span_singleton]
      constructor
      · exact (abs_add_le _ _).trans (add_le_add re outer)
      · exact (abs_add_le _ _).trans (add_le_add im inner)

/-- While the grids span at most one, offsets add up and are never bounded. -/
theorem refineAll_dcOffset {picks : List Pick} (narrow : Narrow (picks.map Pick.grid)) :
    CorrectionKind.dcOffset.refineAll picks = position picks := by
  induction picks using List.reverseRecOn with
  | nil => rfl
  | append_singleton picks last ih =>
      obtain ⟨re, im⟩ := abs_position_le narrow
      have earlier : Narrow (picks.map Pick.grid) :=
        narrow.sublist ((List.sublist_append_left picks [last]).map Pick.grid)
      rw [position_concat] at re im ⊢
      rw [CorrectionKind.refineAll_concat, ih earlier]
      exact offsetDc_eq (re.trans narrow.span) (im.trans narrow.span)

/-- The product of the multipliers of picked points. -/
noncomputable def multiplier (picks : List Pick) : Phasor ℝ :=
  (picks.map fun pick => (pick.grid.iq pick.index : Phasor ℝ)).prod

theorem multiplier_concat (picks : List Pick) (last : Pick) :
    multiplier (picks ++ [last]) = last.grid.iq last.index * multiplier picks := by
  unfold multiplier
  rw [List.map_append, List.prod_append, List.map_singleton, List.prod_singleton, mul_comm]

theorem refineAll_iqBalance (picks : List Pick) :
    CorrectionKind.iqBalance.refineAll picks = multiplier picks := by
  induction picks using List.reverseRecOn with
  | nil => rfl
  | append_singleton picks last ih =>
      rw [CorrectionKind.refineAll_concat, ih, multiplier_concat]
      exact composeIq_eq_mul _ _

/-- The multiplier of a point is two to the power of the one coordinate, turned by the
other one's part of a quarter turn. -/
theorem Grid.iq_eq_ofPolar (grid : Grid) (index : Nat) :
    grid.iq index = Phasor.ofPolar (2 ^ (grid.inner index : ℝ))
      (Real.pi / 2 * grid.outer index) := by
  have half : (two : ℝ) = 2 := one_add_one_eq_two
  rw [Grid.iq, half]
  rfl

/-- Powers and turns of multipliers add up. -/
theorem multiplier_eq_ofPolar (picks : List Pick) :
    multiplier picks =
      .ofPolar (2 ^ (position picks).im) (Real.pi / 2 * (position picks).re) := by
  induction picks using List.reverseRecOn with
  | nil =>
      change (1 : Phasor ℝ) = .ofPolar (2 ^ (0 : ℝ)) (Real.pi / 2 * 0)
      rw [Real.rpow_zero, mul_zero, Phasor.ofPolar_one_zero]
  | append_singleton picks last ih =>
      rw [multiplier_concat, ih, iq_eq_ofPolar, Phasor.ofPolar_mul_ofPolar, position_concat,
        ← Real.rpow_add two_pos, ← mul_add, add_comm, add_comm (last.grid.outer last.index)]

section Picked

variable {picks : List Pick}

theorem magnitude_multiplier (picks : List Pick) :
    (multiplier picks).magnitude = 2 ^ (position picks).im := by
  rw [multiplier_eq_ofPolar]
  exact Phasor.magnitude_ofPolar (Real.rpow_nonneg two_pos.le _) _

/-- A part of a quarter turn is read back as the angle. -/
private theorem quarter_mem {part : ℝ} (small : |part| ≤ 1) :
    Real.pi / 2 * part ∈ Set.Ioc (-Real.pi) Real.pi := by
  obtain ⟨above, below⟩ := abs_le.mp small
  have positive := Real.pi_pos
  constructor <;> nlinarith

/-- While the grids span at most one, angles do not wrap around. -/
theorem angle_multiplier (narrow : Narrow (picks.map Pick.grid)) :
    (multiplier picks).angle = Real.pi / 2 * (position picks).re := by
  rw [multiplier_eq_ofPolar]
  apply Phasor.angle_ofPolar (Real.rpow_pos_of_pos two_pos _)
  exact quarter_mem ((abs_position_le narrow).1.trans narrow.span)

/-- While the grids span at most one, the angle of a product of multipliers is the sum of
their angles. -/
theorem angle_multiplier_eq_sum (narrow : Narrow (picks.map Pick.grid)) :
    (multiplier picks).angle =
      (picks.map fun pick => (pick.grid.iq pick.index : Phasor ℝ).angle).sum := by
  have each : ∀ pick ∈ picks, (pick.grid.iq pick.index : Phasor ℝ).angle =
      Real.pi / 2 * pick.grid.outer pick.index := by
    intro pick member
    have alone : Narrow ([pick].map Pick.grid) :=
      narrow.sublist ((List.singleton_sublist.mpr member).map Pick.grid)
    have angle := angle_multiplier alone
    simpa [multiplier, position] using angle
  rw [angle_multiplier narrow, List.map_congr_left each, List.sum_map_mul_left]
  rfl

end Picked

section Reached

variable {α : Type} [Scalar α] [Scalar.Exact α] {grids : List Grid} {value : Phasor α}

/-- **How far an offset gets**: on each axis as far as the grids span. -/
theorem Reaches.exists_offset (narrow : Narrow grids)
    (reaches : Reaches .dcOffset grids value) :
    ∃ offset : Phasor ℝ, value = .ofReal offset ∧
      |offset.re| ≤ span grids ∧ |offset.im| ≤ span grids := by
  obtain ⟨picks, listed, rfl⟩ := reaches
  have few := narrow.sublist listed
  obtain ⟨re, im⟩ := abs_position_le few
  refine ⟨position picks, ?_, re.trans (span_le_span listed), im.trans (span_le_span listed)⟩
  rw [CorrectionKind.refineAll_eq_ofReal, refineAll_dcOffset few]

/-- One more point is added to an offset as it is. -/
theorem Reaches.offsetDc_eq_add {grid : Grid} (narrow : Narrow (grids ++ [grid]))
    (reaches : Reaches .dcOffset grids value) {index : Nat} (within : index < grid.size) :
    offsetDc value (grid.dc index) = value + grid.dc index := by
  obtain ⟨offset, rfl, re, im⟩ :=
    reaches.exists_offset (narrow.sublist (List.sublist_append_left _ _))
  obtain ⟨outer, inner⟩ := abs_dc_le (narrow.steps grid (by simp)) within
  have room : span grids + 2⁻¹ ^ grid.depth ≤ 1 := by
    have all := narrow.span
    rwa [span_append, span_singleton] at all
  have added : offsetDc offset (grid.dc index) = offset + grid.dc index := by
    apply offsetDc_eq
    · exact ((abs_add_le _ _).trans (add_le_add re outer)).trans room
    · exact ((abs_add_le _ _).trans (add_le_add im inner)).trans room
  rw [grid.dc_eq_ofReal, offsetDc_ofReal, added, Phasor.ofReal_add]

/-- **How far an IQ correction gets**: it is a product of multipliers of picked points whose
power of two and part of a quarter turn are no more than the grids span. -/
theorem Reaches.exists_multiplier (narrow : Narrow grids)
    (reaches : Reaches .iqBalance grids value) :
    ∃ picks : List Pick, (picks.map Pick.grid).Sublist grids ∧
      value = .ofReal (multiplier picks) ∧
      |Real.logb 2 (multiplier picks).magnitude| ≤ span grids ∧
      |(multiplier picks).angle| ≤ Real.pi / 2 * span grids := by
  obtain ⟨picks, listed, rfl⟩ := reaches
  have few := narrow.sublist listed
  obtain ⟨re, im⟩ := abs_position_le few
  refine ⟨picks, listed, ?_, ?_, ?_⟩
  · rw [CorrectionKind.refineAll_eq_ofReal, refineAll_iqBalance]
  · rw [magnitude_multiplier, Real.logb_rpow two_pos (by norm_num)]
    exact im.trans (span_le_span listed)
  · have quarter : 0 ≤ Real.pi / 2 := by positivity
    rw [angle_multiplier few, abs_mul, abs_of_nonneg quarter]
    exact mul_le_mul_of_nonneg_left (re.trans (span_le_span listed)) quarter

end Reached

end LoopbackCalibration
