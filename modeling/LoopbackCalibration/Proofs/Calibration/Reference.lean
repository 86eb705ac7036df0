import LoopbackCalibration.Proofs.Calibration.Gauge

/-! # The searches of a calibration

All three searches of a successful calibration are the reference search of their kind,
run separately on each channel on the levels measured for it. What the reference is
given is one stream of levels and nothing else, so a search depends neither on the
other channel nor on the other searches, and the two searches for an IQ correction are
one function of their levels.
-/

namespace LoopbackCalibration

namespace Calibration

variable {σ η α : Type} [Scalar α] [Arithmetic.Ordered α]

/-- **The searches are the reference search.** On each channel, the corrections that a
search tries are those that the reference tries, given the levels that were measured:
every point of a grid refines the earliest of the lowest trials on the grids before it.
The search reports the earliest of the lowest of all trials, its level, and how often a
trial undercut all those before it. -/
theorem searches_eq_reference (rig : Rig σ η α) (config : Config α) (frequency : α) (stream : η)
    (progress after : Progress σ) (outcome : Outcome α)
    (success : calibrate rig config frequency stream progress = (.ok outcome, after))
    (search : Search) (channel : Channel) :
    let offers := search.offers channel (journal rig config frequency stream progress)
    offers = Reference.offers search.kind (Reference.levelsOf offers) config.grids ∧
      (search.result outcome).kind = search.kind ∧
      (search.result outcome).correction.get channel = Offer.lowest search.kind offers ∧
      (search.result outcome).level.get channel = (Offer.leader? offers).map Offer.level ∧
      (search.result outcome).updates.get channel = Offer.improvements offers := by
  intro offers
  obtain ⟨state, tracks, reported⟩ :=
    tracks_journal rig config frequency stream progress success search
  have best := tracks.best_eq channel
  rw [BestTracker.replay_eq] at best
  refine ⟨?_, ?_, ?_, ?_, ?_⟩
  · rw [Reference.offers_eq_foldl]
    exact tracks.offers_eq channel _ (Reference.measures_levelsOf _)
  · rw [reported]
    exact tracks.kind_eq
  · rw [reported, SearchState.get_correction_result, best]
  · rw [reported, SearchState.get_level_result, best]
  · rw [reported, SearchState.get_updates_result, best]

/-- The searches with a gauge are the reference search. -/
theorem searches_eq_reference_gauge : ∃ outcome after,
    calibrate (Gauge.rig ⟨1 / 3, -1 / 5⟩) Gauge.config Config.parkingFrequency () Gauge.start =
        (.ok outcome, after) ∧
      ∀ (search : Search) (channel : Channel),
        let offers := search.offers channel (journal (Gauge.rig ⟨1 / 3, -1 / 5⟩) Gauge.config
          Config.parkingFrequency () Gauge.start)
        offers = Reference.offers search.kind (Reference.levelsOf offers) Gauge.config.grids ∧
          (search.result outcome).kind = search.kind ∧
          (search.result outcome).correction.get channel = Offer.lowest search.kind offers ∧
          (search.result outcome).level.get channel = (Offer.leader? offers).map Offer.level ∧
          (search.result outcome).updates.get channel = Offer.improvements offers := by
  obtain ⟨outcome, after, success⟩ := Gauge.exists_outcome ⟨1 / 3, -1 / 5⟩
  exact ⟨outcome, after, success, searches_eq_reference (Gauge.rig _) Gauge.config
    Config.parkingFrequency () Gauge.start after outcome success⟩

end Calibration

end LoopbackCalibration
