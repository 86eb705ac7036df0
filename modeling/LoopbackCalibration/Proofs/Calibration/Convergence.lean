import LoopbackCalibration.Proofs.Calibration.Gauge
import LoopbackCalibration.Proofs.Search.Convergence

/-! # What the transmit offset search finds

In exact arithmetic, and with levels that increase with the distance from a target, the
offset search of a calibration comes as close to the target as its last grid is wide.
-/

namespace LoopbackCalibration

namespace Calibration

variable {σ η : Type}

/-- Before its first grid, an offset search is near each target that this grid reaches to
twice its half-width. -/
private theorem approaches_initial {target : Phasor ℝ} {score : ℝ → ℝ} {depth : Nat}
    (deep : 2 ≤ depth) (re : |target.re| ≤ 2 / 2 ^ depth) (im : |target.im| ≤ 2 / 2 ^ depth) :
    Approaches target score depth (.replay .dcOffset []) := by
  have width : (2 : ℝ)⁻¹ ^ depth ≤ 2⁻¹ ^ 2 :=
    pow_le_pow_of_le_one (by norm_num) (by norm_num) deep
  have near : ∀ part : ℝ, |part| ≤ 2 / 2 ^ depth → Near depth part 0 := by
    intro part close
    constructor
    · rwa [sub_zero, inv_pow, ← div_eq_mul_inv]
    · rw [abs_zero]
      linarith
  exact ⟨near target.re re, near target.im im, .inl rfl⟩

/-- **The offset search converges.** The search starts at a depth of two or more and has
grids of at least two steps, the target is at most twice the first half-width away from
zero in each part, and each level is a strictly increasing function of the squared
distance of the correction from the target. Then the correction found differs from the
target by at most the last half-width in each part. -/
theorem transmitDc_converges (rig : Rig σ η ℝ) (config : Config ℝ) (frequency : ℝ) (stream : η)
    (progress after : Progress σ) (outcome : Outcome ℝ)
    (success : calibrate rig config frequency stream progress = (.ok outcome, after))
    (deep : 2 ≤ config.searchDepths.first)
    (ascending : config.searchDepths.first ≤ config.searchDepths.last)
    (steps : 2 ≤ config.stepsPerIter) (channel : Channel) (target : Phasor ℝ)
    (reachRe : |target.re| ≤ 2 / 2 ^ config.searchDepths.first)
    (reachIm : |target.im| ≤ 2 / 2 ^ config.searchDepths.first)
    (score : ℝ → ℝ) (increasing : StrictMonoOn score (Set.Ici 0))
    (measured : ∀ offer ∈ Search.transmitDc.offers channel
        (journal rig config frequency stream progress),
      offer.level = score (offer.candidate - target).normSquare) :
    |target.re - (outcome.txDc.correction.get channel).re| ≤ 1 / 2 ^ config.searchDepths.last ∧
      |target.im - (outcome.txDc.correction.get channel).im| ≤
        1 / 2 ^ config.searchDepths.last := by
  obtain ⟨state, tracks, reported⟩ :=
    tracks_journal rig config frequency stream progress success .transmitDc
  have found : outcome.txDc.correction.get channel = (state.best.get channel).correction := by
    change (Search.transmitDc.result outcome).correction.get channel = _
    rw [reported, SearchState.get_correction_result]
  have offers := tracks.offers_eq channel (Reference.levelsOf (Search.transmitDc.offers channel
    (journal rig config frequency stream progress))) (Reference.measures_levelsOf _)
  have grids : config.grids = Grid.ladder config.stepsPerIter config.searchDepths.first
      config.searchDepths.size := rfl
  rw [offers, grids] at measured
  have approaches := (approaches_initial deep reachRe reachIm).foldl_onGrid steps increasing
    _ _ _ [] measured
  have best := tracks.best_eq channel
  rw [offers, grids] at best
  change _ = BestTracker.replay .dcOffset _ at best
  have depth : config.searchDepths.first + config.searchDepths.size =
      config.searchDepths.last + 1 := by
    rw [DepthRange.size]
    omega
  have half : (2 : ℝ) * 2⁻¹ ^ (config.searchDepths.last + 1) =
      1 / 2 ^ config.searchDepths.last := by
    rw [pow_succ, inv_pow]
    ring
  rw [depth] at approaches
  rw [found, best, ← half]
  exact ⟨approaches.re.close, approaches.im.close⟩

/-- With a gauge the offset search comes as close to the target as a thousandth. -/
theorem transmitDc_converges_gauge : ∃ outcome after,
    calibrate (Gauge.rig ⟨1 / 3, -1 / 5⟩) Gauge.config Config.parkingFrequency () Gauge.start =
        (.ok outcome, after) ∧
      |1 / 3 - (outcome.txDc.correction.get .a).re| ≤ 1 / 2 ^ 10 ∧
      |-1 / 5 - (outcome.txDc.correction.get .a).im| ≤ 1 / 2 ^ 10 := by
  obtain ⟨outcome, after, success⟩ := Gauge.exists_outcome ⟨1 / 3, -1 / 5⟩
  have reachRe : |(1 / 3 : ℝ)| ≤ 2 / 2 ^ Gauge.config.searchDepths.first := by
    change |(1 / 3 : ℝ)| ≤ 2 / 2 ^ 2
    rw [abs_of_nonneg] <;> norm_num
  have reachIm : |(-1 / 5 : ℝ)| ≤ 2 / 2 ^ Gauge.config.searchDepths.first := by
    change |(-1 / 5 : ℝ)| ≤ 2 / 2 ^ 2
    rw [abs_of_nonpos] <;> norm_num
  refine ⟨outcome, after, success, ?_⟩
  exact transmitDc_converges (Gauge.rig ⟨1 / 3, -1 / 5⟩) Gauge.config Config.parkingFrequency ()
    Gauge.start after outcome success (by decide) (by decide) (by decide) .a ⟨1 / 3, -1 / 5⟩
    reachRe reachIm _ Gauge.strictMonoOn_level fun _ => Gauge.level_of_mem_offers

end Calibration

end LoopbackCalibration
