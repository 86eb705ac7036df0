import Mathlib.Tactic.Linarith
import Mathlib.Tactic.Ring
import Mathlib.Tactic.FieldSimp
import Mathlib.Tactic.Positivity
import LoopbackCalibration.Proofs.Scalar.Real
import LoopbackCalibration.Proofs.Search.Reference

/-! # Convergence of the offset search

Exact arithmetic. A grid of at least two steps reaches from the negative to the positive
half-width on each axis. If the base of a grid is within twice the half-width of the
target on each axis, then the lowest trial is within the half-width, and so is the base
when no trial undercuts it. Half-widths are halved from grid to grid, so this goes on.
-/

namespace LoopbackCalibration

open Arithmetic

namespace Grid

/-- Grids of successive depths, from a first one on. -/
def ladder (steps depth count : Nat) : List Grid :=
  (List.range' depth count).map fun depth => ⟨depth, steps⟩

theorem ladder_succ (steps depth count : Nat) :
    ladder steps depth (count + 1) = ⟨depth, steps⟩ :: ladder steps (depth + 1) count := by
  rw [ladder, List.range'_succ, List.map_cons, ← ladder]

variable {grid : Grid}

theorem coordinate_eq (steps : 2 ≤ grid.steps) (index : Nat) :
    grid.coordinate index =
      (-2⁻¹ ^ grid.depth + 2 * 2⁻¹ ^ grid.depth * (index / (grid.steps - 1 : ℕ)) : ℝ) := by
  rw [coordinate, if_neg (Nat.not_lt.mpr steps)]
  change (-2⁻¹ ^ grid.depth + (1 + 1) * 2⁻¹ ^ grid.depth * index / (grid.steps - 1 : ℕ) : ℝ) = _
  ring

theorem abs_coordinate_le (steps : 2 ≤ grid.steps) {index : Nat} (within : index < grid.steps) :
    |(grid.coordinate index : ℝ)| ≤ 2⁻¹ ^ grid.depth := by
  have width : (0 : ℝ) < 2⁻¹ ^ grid.depth := by positivity
  have share : (index / (grid.steps - 1 : ℕ) : ℝ) ≤ 1 :=
    div_le_one_of_le₀ (Nat.cast_le.mpr (by omega)) (Nat.cast_nonneg _)
  have start : (0 : ℝ) ≤ index / (grid.steps - 1 : ℕ) := by positivity
  rw [coordinate_eq steps, abs_le]
  constructor <;> nlinarith

/-- The end of the axis on the side of an offset. -/
theorem exists_coordinate_toward (steps : 2 ≤ grid.steps) (offset : ℝ) :
    ∃ index < grid.steps,
      ((grid.coordinate index : ℝ) - offset) ^ 2 = (|offset| - 2⁻¹ ^ grid.depth) ^ 2 := by
  rcases le_total 0 offset with above | below
  · have last : ((grid.steps - 1 : ℕ) : ℝ) ≠ 0 := Nat.cast_ne_zero.mpr (by omega)
    refine ⟨grid.steps - 1, by omega, ?_⟩
    rw [coordinate_eq steps, div_self last, abs_of_nonneg above]
    ring
  · refine ⟨0, by omega, ?_⟩
    rw [coordinate_eq steps, abs_of_nonpos below, Nat.cast_zero, zero_div]
    ring

/-- Each pair of axis points is a point of the grid. -/
theorem exists_dc_eq {first second : Nat} (firstWithin : first < grid.steps)
    (secondWithin : second < grid.steps) :
    ∃ index < grid.size,
      (grid.dc index : Phasor ℝ) = ⟨grid.coordinate first, grid.coordinate second⟩ := by
  refine ⟨first * grid.steps + second, ?_, ?_⟩
  · rw [size]
    calc first * grid.steps + second < (first + 1) * grid.steps := by
          rw [Nat.succ_mul]
          omega
      _ ≤ grid.steps * grid.steps := Nat.mul_le_mul_right _ firstWithin
  · rw [dc, outer, inner, Nat.mul_comm, Nat.mul_add_div (by omega), Nat.mul_add_mod,
      Nat.div_eq_of_lt secondWithin, Nat.mod_eq_of_lt secondWithin, Nat.add_zero]

theorem abs_dc_le (steps : 2 ≤ grid.steps) {index : Nat} (within : index < grid.size) :
    |(grid.dc index : Phasor ℝ).re| ≤ 2⁻¹ ^ grid.depth ∧
      |(grid.dc index : Phasor ℝ).im| ≤ 2⁻¹ ^ grid.depth :=
  ⟨abs_coordinate_le steps (Nat.div_lt_of_lt_mul within),
    abs_coordinate_le steps (Nat.mod_lt _ (by omega))⟩

end Grid

theorem clampUnit_eq_self {value : ℝ} (within : |value| ≤ 1) : clampUnit value = value := by
  obtain ⟨above, below⟩ := abs_le.mp within
  have raised : (if value < -1 then -1 else value) = value := if_neg (not_lt.mpr above)
  change (if (1 : ℝ) < if value < -1 then -1 else value then 1 else
    if value < -1 then -1 else value) = value
  rw [raised, if_neg (not_lt.mpr below)]

/-- The bound on an offset does nothing within it. -/
theorem offsetDc_eq {base delta : Phasor ℝ} (re : |base.re + delta.re| ≤ 1)
    (im : |base.im + delta.im| ≤ 1) :
    offsetDc base delta = ⟨base.re + delta.re, base.im + delta.im⟩ :=
  congrArg₂ Phasor.mk (clampUnit_eq_self re) (clampUnit_eq_self im)

/-- The square of the distance of two phasors. -/
theorem normSquare_sub_eq (first second : Phasor ℝ) :
    (first - second).normSquare =
      (first.re - second.re) ^ 2 + (first.im - second.im) ^ 2 := by
  change (first.re - second.re) * (first.re - second.re) +
    (first.im - second.im) * (first.im - second.im) = _
  ring

/-- At the start of a grid, one part of the base is within twice the half-width of the
target's, and far enough from the bounds on an offset. -/
structure Near (depth : Nat) (target base : ℝ) : Prop where
  close : |target - base| ≤ 2 * 2⁻¹ ^ depth
  room : |base| + 2 * 2⁻¹ ^ depth ≤ 2⁻¹

namespace Near

variable {depth : Nat} {target base delta : ℝ}

theorem stay (near : Near depth target base) (close : |target - base| ≤ 2⁻¹ ^ depth) :
    Near (depth + 1) target base := by
  have room := near.room
  have width : (0 : ℝ) < 2⁻¹ ^ depth := by positivity
  constructor <;> rw [pow_succ] <;> linarith

/-- The part of a lowest trial is near at the following depth. -/
theorem move (near : Near depth target base) (small : |delta| ≤ 2⁻¹ ^ depth)
    (lowest : (delta - (target - base)) ^ 2 ≤ (|target - base| - 2⁻¹ ^ depth) ^ 2) :
    Near (depth + 1) target (base + delta) := by
  have room := near.room
  have close := near.close
  have width : (0 : ℝ) < 2⁻¹ ^ depth := by positivity
  have start := abs_nonneg (target - base)
  constructor
  · have bounded : |delta - (target - base)| ≤ 2⁻¹ ^ depth := by
      refine abs_le_of_sq_le_sq (lowest.trans ?_) width.le
      nlinarith
    rw [pow_succ, abs_sub_comm]
    calc |base + delta - target| = |delta - (target - base)| := by ring_nf
      _ ≤ 2 * (2⁻¹ ^ depth * 2⁻¹) := by linarith
  · have grown := abs_add_le base delta
    rw [pow_succ]
    linarith

theorem abs_add_le_one (near : Near depth target base) (small : |delta| ≤ 2⁻¹ ^ depth) :
    |base + delta| ≤ 1 := by
  have room := near.room
  have grown := abs_add_le base delta
  have width : (0 : ℝ) < 2⁻¹ ^ depth := by positivity
  linarith

end Near

/-- When one offset is beyond the half-width, the corner toward both offsets is nearer than
the base. -/
private theorem corner_lt {width first second : ℝ} (positive : 0 < width) (far : width < |first|) :
    (|first| - width) ^ 2 + (|second| - width) ^ 2 < first ^ 2 + second ^ 2 := by
  have start := abs_nonneg second
  rw [← sq_abs first, ← sq_abs second]
  nlinarith

/-- Not being undercut means being no farther from the target. -/
private theorem distance_le_of_not_lt {score : ℝ → ℝ} (increasing : StrictMonoOn score (Set.Ici 0))
    {target first second : Phasor ℝ}
    (unbeaten : ¬score (second - target).normSquare < score (first - target).normSquare) :
    (target.re - first.re) ^ 2 + (target.im - first.im) ^ 2 ≤
      (target.re - second.re) ^ 2 + (target.im - second.im) ^ 2 := by
  have nonneg : ∀ value : Phasor ℝ, (value - target).normSquare ∈ Set.Ici 0 := fun value => by
    rw [normSquare_sub_eq]
    exact Set.mem_Ici.mpr (by positivity)
  have closer := (increasing.le_iff_le (nonneg first) (nonneg second)).mp (not_lt.mp unbeaten)
  rw [normSquare_sub_eq, normSquare_sub_eq] at closer
  linarith

/-- At the start of a grid, the tracker of an offset search is near the target on both
axes. -/
structure Approaches (target : Phasor ℝ) (score : ℝ → ℝ) (depth : Nat)
    (best : BestTracker ℝ) : Prop where
  re : Near depth target.re best.correction.re
  im : Near depth target.im best.correction.im
  level : best.level = none ∨ best.level = some (score (best.correction - target).normSquare)

/-- The trials of an offset search on one grid, with levels that increase with the distance
from the target. -/
structure Explores (target : Phasor ℝ) (score : ℝ → ℝ) (grid : Grid) (base : Phasor ℝ)
    (tried : List (Offer ℝ)) : Prop where
  steps : 2 ≤ grid.steps
  increasing : StrictMonoOn score (Set.Ici 0)
  candidates : tried.map Offer.candidate =
    (List.range grid.size).map fun index => offsetDc base (grid.dc index)
  measured : ∀ offer ∈ tried, offer.level = score (offer.candidate - target).normSquare

section Step

variable {target : Phasor ℝ} {score : ℝ → ℝ} {grid : Grid} {best : BestTracker ℝ}
  {tried : List (Offer ℝ)}

/-- A trial is the base moved by a point of the grid. -/
private theorem Approaches.trial_eq (approaches : Approaches target score grid.depth best)
    (steps : 2 ≤ grid.steps) {index : Nat} (within : index < grid.size) :
    offsetDc best.correction (grid.dc index) =
      ⟨best.correction.re + (grid.dc index : Phasor ℝ).re,
        best.correction.im + (grid.dc index : Phasor ℝ).im⟩ := by
  obtain ⟨smallRe, smallIm⟩ := Grid.abs_dc_le steps within
  exact offsetDc_eq (approaches.re.abs_add_le_one smallRe) (approaches.im.abs_add_le_one smallIm)

/-- Each pair of axis points is tried. -/
private theorem Explores.exists_trial (explores : Explores target score grid best.correction tried)
    (approaches : Approaches target score grid.depth best) {first second : Nat}
    (firstWithin : first < grid.steps) (secondWithin : second < grid.steps) :
    ∃ offer ∈ tried, offer.candidate = ⟨best.correction.re + grid.coordinate first,
      best.correction.im + grid.coordinate second⟩ := by
  obtain ⟨index, within, same⟩ := Grid.exists_dc_eq firstWithin secondWithin
  have listed : offsetDc best.correction (grid.dc index) ∈ tried.map Offer.candidate := by
    rw [explores.candidates]
    exact List.mem_map.mpr ⟨index, List.mem_range.mpr within, rfl⟩
  obtain ⟨offer, member, candidate⟩ := List.mem_map.mp listed
  exact ⟨offer, member, by rw [candidate, approaches.trial_eq explores.steps within, same]⟩

private theorem Explores.exists_step (explores : Explores target score grid best.correction tried)
    (approaches : Approaches target score grid.depth best) {offer : Offer ℝ}
    (member : offer ∈ tried) :
    ∃ first < grid.steps, ∃ second < grid.steps,
      offer.candidate = ⟨best.correction.re + grid.coordinate first,
        best.correction.im + grid.coordinate second⟩ := by
  have listed : offer.candidate ∈ tried.map Offer.candidate := List.mem_map_of_mem member
  rw [explores.candidates] at listed
  obtain ⟨index, inRange, tries⟩ := List.mem_map.mp listed
  have within := List.mem_range.mp inRange
  have positive : 0 < grid.steps := by have := explores.steps; omega
  refine ⟨index / grid.steps, Nat.div_lt_of_lt_mul within, index % grid.steps,
    Nat.mod_lt _ positive, ?_⟩
  rw [← tries, approaches.trial_eq explores.steps within]
  rfl

/-- A base that no trial of the grid undercuts is within the half-width. -/
private theorem Approaches.stay (approaches : Approaches target score grid.depth best)
    (explores : Explores target score grid best.correction tried)
    (kept : ∀ offer ∈ tried, ¬best.improvedBy offer.level) :
    Approaches target score (grid.depth + 1) best := by
  have width : (0 : ℝ) < 2⁻¹ ^ grid.depth := by positivity
  obtain ⟨towardRe, reWithin, reSquare⟩ :=
    Grid.exists_coordinate_toward explores.steps (target.re - best.correction.re)
  obtain ⟨towardIm, imWithin, imSquare⟩ :=
    Grid.exists_coordinate_toward explores.steps (target.im - best.correction.im)
  obtain ⟨corner, member, candidate⟩ := explores.exists_trial approaches reWithin imWithin
  have worse := kept corner member
  rcases approaches.level with fresh | held
  · rw [BestTracker.improvedBy, fresh] at worse
    exact (worse rfl).elim
  · rw [BestTracker.improvedBy_eq_of_level held, explores.measured corner member,
      decide_eq_true_eq] at worse
    have lowest := distance_le_of_not_lt explores.increasing worse
    simp only [candidate, ← sub_sub] at lowest
    rw [sub_sq_comm _ (grid.coordinate towardRe), sub_sq_comm _ (grid.coordinate towardIm),
      reSquare, imSquare] at lowest
    refine ⟨approaches.re.stay (not_lt.mp fun far => ?_),
      approaches.im.stay (not_lt.mp fun far => ?_), approaches.level⟩
    · exact absurd lowest (not_le.mpr (corner_lt width far))
    · rw [add_comm, add_comm ((|target.re - _| - _) ^ 2)] at lowest
      exact absurd lowest (not_le.mpr (corner_lt width far))

/-- The lowest trial of the grid is within the half-width. -/
private theorem Approaches.move (approaches : Approaches target score grid.depth best)
    (explores : Explores target score grid best.correction tried) {offer : Offer ℝ}
    (member : offer ∈ tried) (unbeaten : ∀ other ∈ tried, ¬other.level < offer.level)
    {after : BestTracker ℝ} (correction : after.correction = offer.candidate)
    (level : after.level = some offer.level) :
    Approaches target score (grid.depth + 1) after := by
  have closest : ∀ other ∈ tried,
      (target.re - offer.candidate.re) ^ 2 + (target.im - offer.candidate.im) ^ 2 ≤
        (target.re - other.candidate.re) ^ 2 + (target.im - other.candidate.im) ^ 2 := by
    intro other listed
    have least := unbeaten other listed
    rw [explores.measured other listed, explores.measured offer member] at least
    exact distance_le_of_not_lt explores.increasing least
  obtain ⟨first, firstWithin, second, secondWithin, candidate⟩ :=
    explores.exists_step approaches member
  rw [explores.measured offer member, candidate] at level
  rw [candidate] at correction closest
  have smallRe := Grid.abs_coordinate_le explores.steps firstWithin
  have smallIm := Grid.abs_coordinate_le explores.steps secondWithin
  -- Moving one part of the trial to the end of its axis does not come closer.
  have lowestRe : (grid.coordinate first - (target.re - best.correction.re)) ^ 2 ≤
      (|target.re - best.correction.re| - 2⁻¹ ^ grid.depth) ^ 2 := by
    obtain ⟨toward, within, square⟩ :=
      Grid.exists_coordinate_toward explores.steps (target.re - best.correction.re)
    obtain ⟨other, listed, moved⟩ := explores.exists_trial approaches within secondWithin
    have least := closest other listed
    rw [moved] at least
    rw [← square]
    linarith
  have lowestIm : (grid.coordinate second - (target.im - best.correction.im)) ^ 2 ≤
      (|target.im - best.correction.im| - 2⁻¹ ^ grid.depth) ^ 2 := by
    obtain ⟨toward, within, square⟩ :=
      Grid.exists_coordinate_toward explores.steps (target.im - best.correction.im)
    obtain ⟨other, listed, moved⟩ := explores.exists_trial approaches firstWithin within
    have least := closest other listed
    rw [moved] at least
    rw [← square]
    linarith
  refine ⟨?_, ?_, .inr ?_⟩
  · rw [correction]
    exact approaches.re.move smallRe lowestRe
  · rw [correction]
    exact approaches.im.move smallIm lowestIm
  · rw [level, correction]

/-- **One grid.** When levels increase with the distance from the target, a tracker that
is near the target before the trials of a grid is near it, at the following depth, after
them. -/
theorem Approaches.foldl_offer (approaches : Approaches target score grid.depth best)
    (explores : Explores target score grid best.correction tried) :
    Approaches target score (grid.depth + 1)
      (tried.foldl (fun best offer => best.offer offer.candidate offer.level) best) := by
  rcases BestTracker.foldl_offer best tried with ⟨same, kept⟩ |
    ⟨offer, member, correction, level, unbeaten⟩
  · rw [same]
    exact approaches.stay explores kept
  · exact approaches.move explores member unbeaten correction level

/-- **A run of grids.** With half-widths halved from grid to grid, the tracker is near the
target at every depth. -/
theorem Approaches.foldl_onGrid {steps : Nat} (enough : 2 ≤ steps)
    (increasing : StrictMonoOn score (Set.Ici 0)) (levels : Nat → ℝ) (depth count : Nat)
    (earlier : List (Offer ℝ))
    (approaches : Approaches target score depth (.replay .dcOffset earlier))
    (measured : ∀ offer ∈ (Grid.ladder steps depth count).foldl
        (Reference.onGrid .dcOffset (BestTracker.held .dcOffset) levels) earlier,
      offer.level = score (offer.candidate - target).normSquare) :
    Approaches target score (depth + count) (.replay .dcOffset
      ((Grid.ladder steps depth count).foldl
        (Reference.onGrid .dcOffset (BestTracker.held .dcOffset) levels) earlier)) := by
  induction count generalizing depth earlier with
  | zero => exact approaches
  | succ count ih =>
      rw [Grid.ladder_succ, List.foldl_cons] at measured ⊢
      have next : depth + (count + 1) = depth + 1 + count := by omega
      rw [next]
      refine ih (depth + 1) _ ?_ measured
      obtain ⟨later, extended⟩ := Reference.prefix_foldl_onGrid .dcOffset
        (BestTracker.held .dcOffset) levels (Grid.ladder steps (depth + 1) count)
        (Reference.onGrid .dcOffset (BestTracker.held .dcOffset) levels earlier ⟨depth, steps⟩)
      rw [extended] at measured
      unfold Reference.onGrid at measured ⊢
      rw [BestTracker.replay, List.foldl_append, ← BestTracker.replay]
      have started : Approaches target score (⟨depth, steps⟩ : Grid).depth _ := approaches
      refine started.foldl_offer ⟨enough, increasing, ?_, fun offer member =>
        measured offer (List.mem_append_left _ (List.mem_append_right _ member))⟩
      rw [List.map_map]
      rfl

end Step

end LoopbackCalibration
