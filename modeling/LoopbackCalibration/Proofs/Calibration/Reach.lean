import LoopbackCalibration.Proofs.Calibration.Gauge
import LoopbackCalibration.Proofs.Calibration.Writes

/-! # How far corrections get

With half-widths halved from grid to grid, the grids of a calibration span less than half
(`span_grids`). No measured levels, of whatever device, take a correction farther: offsets
stay in a small square around zero, and IQ corrections turn by less than an eighth.
-/

namespace LoopbackCalibration

open Grid

namespace Calibration

section Grids

variable {α : Type} {config : Config α}

theorem span_grids (ascending : config.searchDepths.first ≤ config.searchDepths.last) :
    span config.grids =
      2 / 2 ^ config.searchDepths.first - 1 / 2 ^ config.searchDepths.last := by
  have grids : config.grids = ladder config.stepsPerIter config.searchDepths.first
      config.searchDepths.size := rfl
  have depth : config.searchDepths.first + config.searchDepths.size =
      config.searchDepths.last + 1 := by
    rw [DepthRange.size]
    omega
  rw [grids, span_ladder, depth, pow_succ, inv_pow, inv_pow]
  ring

/-- From a depth of two on, grids span less than half. -/
theorem reach_lt_half {first : Nat} (deep : 2 ≤ first) (last : Nat) :
    (2 / 2 ^ first - 1 / 2 ^ last : ℝ) < 1 / 2 := by
  have wide : (2 : ℝ) ^ 2 ≤ 2 ^ first := pow_le_pow_right₀ one_le_two deep
  have start : (2 / 2 ^ first : ℝ) ≤ 2 / 2 ^ 2 := by gcongr
  have finish : (0 : ℝ) < 1 / 2 ^ last := by positivity
  linarith

theorem narrow_grids (deep : 2 ≤ config.searchDepths.first)
    (ascending : config.searchDepths.first ≤ config.searchDepths.last)
    (steps : 2 ≤ config.stepsPerIter) : Narrow config.grids where
  steps grid member := by
    obtain ⟨depth, -, rfl⟩ := List.mem_map.mp member
    exact steps
  span := by
    rw [span_grids ascending]
    have half := reach_lt_half deep config.searchDepths.last
    linarith

end Grids

variable {σ η α : Type} [Scalar α] [Scalar.Exact α]

/-- A part of an offset is within the bound on offsets and does not cancel what lies farther
out than the grids reach. -/
private theorem part_kept {reach part : ℝ} (half : reach < 1 / 2) (small : |part| ≤ reach) :
    (clampUnit (Scalar.Exact.ofReal part) : α) = Scalar.Exact.ofReal part ∧
      ∀ leakage : ℝ, reach < |leakage| →
        Scalar.Exact.ofReal leakage + Scalar.Exact.ofReal part ≠ (0 : α) := by
  constructor
  · rw [← Scalar.Exact.ofReal_clampUnit, clampUnit_eq_self (by linarith)]
  · intro leakage far cancels
    rw [← Scalar.Exact.ofReal_add, ← Scalar.Exact.ofReal_zero] at cancels
    have opposite : leakage = -part :=
      eq_neg_of_add_eq_zero_left (Scalar.Exact.ofReal_injective cancels)
    rw [opposite, abs_neg] at far
    exact absurd small (not_le.mpr far)

/-- **The bound on offsets does nothing.** A run, with whatever levels, on whatever device
and whether it succeeds or fails, writes and reports only transmit offsets whose parts are
at most what the half-widths of the grids add up to, which is less than half. So an offset
is what it is without the bound, and a leakage with a part that lies farther out is not
cancelled. What is written before the first trial is zero, and after the last one the best
offset. Every write in between is the sum of a point of the grid and of the best offset when
the trials of the grid began. -/
theorem transmitDc_reach (rig : Rig σ η α) (config : Config α) (frequency : α) (stream : η)
    (progress : Progress σ) (deep : 2 ≤ config.searchDepths.first)
    (ascending : config.searchDepths.first ≤ config.searchDepths.last)
    (steps : 2 ≤ config.stepsPerIter) (channel : Channel) :
    let reach : ℝ := 2 / 2 ^ config.searchDepths.first - 1 / 2 ^ config.searchDepths.last
    let applies := Applies rig config frequency stream progress .transmitDc channel
    reach < 1 / 2 ∧
      (∀ value, applies value → clampOffset value = value ∧
        ∃ offset : Phasor ℝ, value = .ofReal offset ∧ |offset.re| ≤ reach ∧ |offset.im| ≤ reach) ∧
      (∀ value, applies value → ∀ leakage : ℝ, reach < |leakage| →
        Scalar.Exact.ofReal leakage + value.re ≠ 0 ∧
          Scalar.Exact.ofReal leakage + value.im ≠ 0) ∧
      ∀ past value outcome future,
        journal rig config frequency stream progress =
            past ++ .commanded (.dcOffset .tx channel value) outcome :: future →
        let offers := Search.transmitDc.offers channel past
        (offers = [] ∧ value = .zero) ∨
          (∃ done grid rest index, config.grids = done ++ grid :: rest ∧ index < grid.size ∧
            offers.length = points done + index ∧
            let base := BestTracker.held .dcOffset (offers.take (points done))
            value = offsetDc base (grid.dc index) ∧ value = base + grid.dc index) ∨
          (offers.length = points config.grids ∧ value = BestTracker.held .dcOffset offers) := by
  intro reach applies
  have half : reach < 1 / 2 := reach_lt_half deep _
  have narrow := narrow_grids deep ascending steps
  have reached : ∀ value, applies value → ∃ offset : Phasor ℝ, value = .ofReal offset ∧
      |offset.re| ≤ reach ∧ |offset.im| ≤ reach := by
    intro value applied
    have reaches := reaches_of_applies rig config frequency stream progress applied
    have whole : span config.grids = reach := span_grids ascending
    rw [← whole]
    exact reaches.exists_offset narrow
  refine ⟨half, ?_, ?_, ?_⟩
  · intro value applied
    obtain ⟨offset, rfl, re, im⟩ := reached value applied
    refine ⟨?_, offset, rfl, re, im⟩
    exact congrArg₂ Phasor.mk (part_kept half re).1 (part_kept half im).1
  · intro value applied leakage far
    obtain ⟨offset, rfl, re, im⟩ := reached value applied
    exact ⟨(part_kept half re).2 leakage far, (part_kept half im).2 leakage far⟩
  · intro past value outcome future split
    have prescribed := writesPrescribed_journal rig config frequency stream progress .transmitDc
      channel past value outcome future split
    cases prescribed with
    | cleared untried identity => exact .inl ⟨untried, identity⟩
    | tried done grid rest index visits within counted reaches refines =>
        have earlier : Narrow (done ++ [grid]) := by
          apply narrow.sublist
          rw [visits]
          exact (List.Sublist.refl done).append (List.singleton_sublist.mpr List.mem_cons_self)
        have added := reaches.offsetDc_eq_add earlier within
        exact .inr (.inl ⟨done, grid, rest, index, visits, within, counted, refines,
          refines.trans added⟩)
    | found counted reaches held => exact .inr (.inr ⟨counted, held⟩)

/-- With a gauge whose target lies beyond the grids, the offset search of a calibration ends
within them and does not cancel the leakage. -/
theorem transmitDc_reach_gauge : ∃ outcome after,
    calibrate (Gauge.rig ⟨-3 / 5, 0⟩) Gauge.config Config.parkingFrequency () Gauge.start =
        (.ok outcome, after) ∧
      (∃ offset : Phasor ℝ, outcome.txDc.correction.get .a = .ofReal offset ∧
        |offset.re| ≤ 2 / 2 ^ 2 - 1 / 2 ^ 10 ∧ |offset.im| ≤ 2 / 2 ^ 2 - 1 / 2 ^ 10) ∧
      3 / 5 + (outcome.txDc.correction.get .a).re ≠ 0 := by
  obtain ⟨outcome, after, success⟩ := Gauge.exists_outcome ⟨-3 / 5, 0⟩
  obtain ⟨-, bounded, uncancelled, -⟩ := transmitDc_reach (Gauge.rig ⟨-3 / 5, 0⟩) Gauge.config
    Config.parkingFrequency () Gauge.start (by decide) (by decide) (by decide) .a
  have applied : Applies (Gauge.rig ⟨-3 / 5, 0⟩) Gauge.config Config.parkingFrequency ()
      Gauge.start .transmitDc .a (outcome.txDc.correction.get .a) :=
    .inr ⟨outcome, after, success, rfl⟩
  have far : (2 / 2 ^ 2 - 1 / 2 ^ 10 : ℝ) < |3 / 5| := by
    rw [abs_of_nonneg] <;> norm_num
  exact ⟨outcome, after, success, (bounded _ applied).2, (uncancelled _ applied (3 / 5) far).1⟩

/-- **Refining an IQ correction is multiplying, and no phase wraps around.** Composing is the
product of complex numbers. A run, with whatever levels, on whatever device and whether it
succeeds or fails, writes and reports only IQ corrections that are products of multipliers of
the grids, at most one of each. The powers of two and the parts of a quarter turn of such a
product are at most what the half-widths of the grids add up to, which is less than half, and
its angle is the sum of the angles of the multipliers. -/
theorem iqBalance_reach (rig : Rig σ η α) (config : Config α) (frequency : α) (stream : η)
    (progress : Progress σ) (deep : 2 ≤ config.searchDepths.first)
    (ascending : config.searchDepths.first ≤ config.searchDepths.last)
    (steps : 2 ≤ config.stepsPerIter) :
    let reach : ℝ := 2 / 2 ^ config.searchDepths.first - 1 / 2 ^ config.searchDepths.last
    (∀ delta base : Phasor ℝ, composeIq delta base = delta * base ∧
      (composeIq delta base).toComplex = delta.toComplex * base.toComplex ∧
      composeIq delta base = composeIq base delta ∧
      (∀ third, composeIq (composeIq delta base) third = composeIq delta (composeIq base third)) ∧
      composeIq .one base = base ∧ composeIq base .one = base) ∧
    Real.pi / 2 * reach < Real.pi / 4 ∧
    ∀ search channel value, search.kind = .iqBalance →
      Applies rig config frequency stream progress search channel value →
      ∃ picks : List Pick, (picks.map Pick.grid).Sublist config.grids ∧
        value = .ofReal (multiplier picks) ∧
        |Real.logb 2 (multiplier picks).magnitude| ≤ reach ∧
        |(multiplier picks).angle| ≤ Real.pi / 2 * reach ∧
        (multiplier picks).angle =
          (picks.map fun pick => (pick.grid.iq pick.index : Phasor ℝ).angle).sum := by
  intro reach
  have narrow := narrow_grids deep ascending steps
  refine ⟨?_, ?_, ?_⟩
  · intro delta base
    refine ⟨composeIq_eq_mul delta base, ?_, ?_, ?_, ?_, ?_⟩
    · rw [composeIq_eq_mul, Phasor.toComplex_mul]
    · rw [composeIq_eq_mul, composeIq_eq_mul, mul_comm]
    · intro third
      simp only [composeIq_eq_mul, mul_assoc]
    · rw [composeIq_eq_mul]
      exact one_mul base
    · rw [composeIq_eq_mul]
      exact mul_one base
  · have half : reach < 1 / 2 := reach_lt_half deep _
    have positive := Real.pi_pos
    nlinarith
  · intro search channel value kind applied
    have reaches := reaches_of_applies rig config frequency stream progress applied
    rw [kind] at reaches
    obtain ⟨picks, listed, same, power, angle⟩ := reaches.exists_multiplier narrow
    rw [span_grids ascending] at power angle
    exact ⟨picks, listed, same, power, angle, angle_multiplier_eq_sum (narrow.sublist listed)⟩

/-- With a gauge, both IQ corrections of a calibration are products of multipliers that turn
by less than an eighth. -/
theorem iqBalance_reach_gauge : ∃ outcome after,
    calibrate (Gauge.rig ⟨1 / 3, -1 / 5⟩) Gauge.config Config.parkingFrequency () Gauge.start =
        (.ok outcome, after) ∧
      ∀ channel, ∃ picks : List Pick, (picks.map Pick.grid).Sublist Gauge.config.grids ∧
        outcome.rxIq.correction.get channel = .ofReal (multiplier picks) ∧
        |(multiplier picks).angle| < Real.pi / 4 := by
  obtain ⟨outcome, after, success⟩ := Gauge.exists_outcome ⟨1 / 3, -1 / 5⟩
  obtain ⟨-, eighth, products⟩ := iqBalance_reach (Gauge.rig ⟨1 / 3, -1 / 5⟩) Gauge.config
    Config.parkingFrequency () Gauge.start (by decide) (by decide) (by decide)
  refine ⟨outcome, after, success, fun channel => ?_⟩
  obtain ⟨picks, listed, same, -, angle, -⟩ := products .receiveIq channel
    (outcome.rxIq.correction.get channel) rfl (.inr ⟨outcome, after, success, rfl⟩)
  exact ⟨picks, listed, same, angle.trans_lt eighth⟩

end Calibration

end LoopbackCalibration
