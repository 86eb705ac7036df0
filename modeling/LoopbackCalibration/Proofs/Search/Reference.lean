import LoopbackCalibration.Proofs.Action.Ensures
import LoopbackCalibration.Proofs.Search.Offers

/-! # What a descent tries

The reference for a descent knows no trackers and no snapshots. It is given the stream
of levels that will be measured, one for each trial, and lists the trials: on every
grid, all points refine the same base, the leader of the trials on the grids before it
(`Reference.offers`). A descent whose trials refine what the tracker held at the start
of the grid, and offer the tracker what they try, makes exactly these trials
(`Descent.ensures_reference`).
-/

namespace LoopbackCalibration

open Action

/-- The delta by which a test point refines a correction of a kind. -/
def CorrectionKind.delta {α : Type} (kind : CorrectionKind) (point : TestPoint α) : Phasor α :=
  match kind with
  | .iqBalance => point.iq
  | .dcOffset => point.dc

variable {σ ε α β : Type}

namespace Reference

/-- A list of offers has the levels of a stream. -/
def Measures (levels : Nat → α) (offers : List (Offer α)) : Prop :=
  ∀ index offer, offers[index]? = some offer → offer.level = levels index

theorem Measures.of_append {levels : Nat → α} {earlier later : List (Offer α)}
    (measures : Measures levels (earlier ++ later)) : Measures levels earlier := by
  intro index offer present
  apply measures index offer
  rwa [List.getElem?_append_left (List.getElem?_eq_some_iff.mp present).1]

variable [Scalar α]

/-- The trials up to and including a grid. Each point of the grid refines the base that
the earlier trials give. -/
def onGrid (kind : CorrectionKind) (base : List (Offer α) → Phasor α) (levels : Nat → α)
    (earlier : List (Offer α)) (grid : Grid) : List (Offer α) :=
  earlier ++ (List.range grid.size).map fun index =>
    ⟨kind.refine (base earlier) (kind.delta (grid.point index)), levels (earlier.length + index)⟩

/-- The trials of a search of a kind on a list of grids, for a stream of levels. -/
def offers (kind : CorrectionKind) (levels : Nat → α) (grids : List Grid) : List (Offer α) :=
  grids.foldl (onGrid kind (Offer.lowest kind) levels) []

/-- The levels of a list of offers, as a stream. -/
def levelsOf (offers : List (Offer α)) (index : Nat) : α :=
  (offers[index]?.map Offer.level).getD 0

theorem measures_levelsOf (offers : List (Offer α)) : Measures (levelsOf offers) offers := by
  intro index offer present
  rw [levelsOf, present]
  rfl

theorem prefix_foldl_onGrid (kind : CorrectionKind) (base : List (Offer α) → Phasor α)
    (levels : Nat → α) (grids : List Grid) (earlier : List (Offer α)) :
    ∃ later, grids.foldl (onGrid kind base levels) earlier = earlier ++ later := by
  induction grids generalizing earlier with
  | nil => exact ⟨[], (List.append_nil earlier).symm⟩
  | cons grid rest ih =>
      obtain ⟨later, same⟩ := ih (onGrid kind base levels earlier grid)
      exact ⟨_, by rw [List.foldl_cons, same, onGrid, List.append_assoc]⟩

/-- A grid with points is tried. -/
theorem foldl_onGrid_ne_nil (kind : CorrectionKind) (base : List (Offer α) → Phasor α)
    (levels : Nat → α) (grid : Grid) (points : 0 < grid.size) (rest : List Grid)
    (earlier : List (Offer α)) :
    (grid :: rest).foldl (onGrid kind base levels) earlier ≠ [] := by
  obtain ⟨later, same⟩ := prefix_foldl_onGrid kind base levels rest
    (onGrid kind base levels earlier grid)
  rw [List.foldl_cons, same, onGrid]
  simp [Nat.ne_of_gt points]

/-- Trials with the candidates of a grid and the levels of a stream are the trials of
that grid. -/
theorem append_eq_onGrid {kind : CorrectionKind} (base : List (Offer α) → Phasor α)
    {levels : Nat → α} {earlier tried : List (Offer α)} {grid : Grid}
    (candidates : tried.map Offer.candidate =
      (List.range grid.size).map fun index =>
        kind.refine (base earlier) (kind.delta (grid.point index)))
    (measures : Measures levels (earlier ++ tried)) :
    earlier ++ tried = onGrid kind base levels earlier grid := by
  have size : tried.length = grid.size := by simpa using congrArg List.length candidates
  refine congrArg (earlier ++ ·) (List.ext_getElem (by simp [size]) fun index within _ => ?_)
  have candidate := List.getElem_of_eq candidates (by simpa using within)
  have present : (earlier ++ tried)[earlier.length + index]? = some tried[index] := by
    rw [List.getElem?_append_right (Nat.le_add_right _ _), Nat.add_sub_cancel_left,
      List.getElem?_eq_getElem within]
  have level := measures _ _ present
  simp only [List.getElem_map, List.getElem_range] at candidate ⊢
  rw [← candidate, ← level]

end Reference

variable [Scalar α]

namespace Descent

variable {kind : CorrectionKind} {tracker : β → BestTracker α} {offers : σ → List (Offer α)}
  {attempt : β → TestPoint α → β → Action σ (Halt ε) β}

/-- A trial that succeeds refines the tracker's correction at the start, is recorded, and
is offered to the tracker. -/
def Follows (kind : CorrectionKind) (tracker : β → BestTracker α)
    (offers : σ → List (Offer α))
    (attempt : β → TestPoint α → β → Action σ (Halt ε) β) : Prop :=
  ∀ start point found past,
    Ensures (fun world => offers world = past) (attempt start point found)
      (fun found' after => ∃ offer : Offer α,
        offer.candidate = kind.refine (tracker start).correction (kind.delta point) ∧
          offers after = past ++ [offer] ∧
          tracker found' = (tracker found).offer offer.candidate offer.level)
      (fun _ _ => True)

private theorem ensures_tryPoints (follows : Follows kind tracker offers attempt)
    (grid : Grid) (start : β) (ahead : Nat) (bounded : ahead ≤ grid.size) (found : β)
    (past : List (Offer α)) (tracks : tracker found = .replay kind past) :
    Ensures (fun world => offers world = past) (tryPoints grid (attempt start) ahead found)
      (fun found' after => ∃ tried,
        offers after = past ++ tried ∧ tracker found' = .replay kind (offers after) ∧
          tried.map Offer.candidate =
            (List.range' (grid.size - ahead) ahead).map fun index =>
              kind.refine (tracker start).correction (kind.delta (grid.point index)))
      (fun _ _ => True) := by
  induction ahead generalizing found past with
  | zero =>
      refine ensures_pure found fun world recorded => ?_
      exact ⟨[], by rw [recorded, List.append_nil], by rw [tracks, recorded], rfl⟩
  | succ ahead ih =>
      refine (follows start _ found past).bind
        fun found' world ⟨offer, candidate, recorded, taken⟩ => ?_
      have tracks' : tracker found' = .replay kind (past ++ [offer]) := by
        rw [taken, tracks, BestTracker.replay_concat]
      refine (ih (Nat.le_of_succ_le bounded) found' (past ++ [offer]) tracks').weaken
        (fun _ same => same) ?_ (fun _ _ _ => trivial) world recorded
      rintro found'' after ⟨tried, grown, tracked, candidates⟩
      refine ⟨offer :: tried, by simpa using grown, tracked, ?_⟩
      have next : grid.size - (ahead + 1) + 1 = grid.size - ahead := by omega
      rw [List.map_cons, candidates, candidate, List.range'_succ, next, List.map_cons]

/-- **A descent makes the reference's trials.** For the levels that were measured, what
a descent has tried on a list of grids is what the reference tries, and the tracker
has been offered all of it. -/
theorem ensures_reference (follows : Follows kind tracker offers attempt)
    (grids : List Grid) (found : β) (past : List (Offer α))
    (tracks : tracker found = .replay kind past) :
    Ensures (fun world => offers world = past) (tryGrids attempt grids found)
      (fun found' after =>
        tracker found' = .replay kind (offers after) ∧
          ∀ levels, Reference.Measures levels (offers after) →
            offers after = grids.foldl
              (Reference.onGrid kind (BestTracker.held kind) levels) past)
      (fun _ _ => True) := by
  induction grids generalizing found past with
  | nil =>
      refine ensures_pure found fun world recorded => ?_
      exact ⟨by rw [tracks, recorded], fun _ _ => recorded⟩
  | cons grid rest ih =>
      have points : Ensures (fun world => offers world = past) (tryGrid attempt grid found)
          (fun found' after => ∃ tried,
            offers after = past ++ tried ∧ tracker found' = .replay kind (offers after) ∧
              tried.map Offer.candidate = (List.range grid.size).map fun index =>
                kind.refine (BestTracker.held kind past) (kind.delta (grid.point index)))
          (fun _ _ => True) := by
        unfold tryGrid
        split
        · have all := ensures_tryPoints follows grid found grid.size (Nat.le_refl _) found past
            tracks
          rwa [Nat.sub_self, ← List.range_eq_range', tracks] at all
        · exact ensures_fail _ fun _ _ => trivial
      refine points.bind fun found' world ⟨tried, grown, tracked, candidates⟩ => ?_
      refine (ih found' (past ++ tried) (by rw [tracked, grown])).weaken
        (fun _ same => same) ?_ (fun _ _ _ => trivial) world grown
      rintro found'' after ⟨tracks', reference⟩
      refine ⟨tracks', fun levels measures => ?_⟩
      have later := reference levels measures
      obtain ⟨more, extended⟩ := Reference.prefix_foldl_onGrid kind
        (BestTracker.held kind) levels rest (past ++ tried)
      rw [later, extended] at measures
      rw [later, List.foldl_cons, ← Reference.append_eq_onGrid
        (BestTracker.held kind) candidates measures.of_append]

end Descent

/-- Under the order of the scalars a tracker's correction is the leader's, so that a
descent's trials are those of the reference. -/
theorem Reference.offers_eq_foldl [Arithmetic.Ordered α] (kind : CorrectionKind)
    (levels : Nat → α) (grids : List Grid) :
    offers kind levels grids = grids.foldl (onGrid kind (BestTracker.held kind) levels) [] := by
  have same : (BestTracker.held kind : List (Offer α) → Phasor α) = Offer.lowest kind :=
    funext fun earlier => by rw [BestTracker.held, BestTracker.replay_eq]
  rw [offers, same]

end LoopbackCalibration
