import LoopbackCalibration.Proofs.Calibration.Gauge

/-! # Where levels come from

A level is worth nothing unless it was measured with the correction it is recorded for.
Every level that a calibration offers to a search comes from one capture that follows
directly on the writing of the trial's corrections, and what a successful calibration
reports was offered.
-/

namespace LoopbackCalibration

variable {σ η α : Type}

namespace Calibration

variable [Scalar α]

/-- **Levels belong to their corrections.** In every run, whether it succeeds or fails,
a trial comes right after the writing of its corrections and one capture. From the start
of the capture to its end, the corrections that the trial offers are what was written
last, and the levels that it offers are those that the capture shows on the channel at
the frequency of the search. In transmit trials the receive corrections written last are
what the receive search came to. After success, whatever a search reports with at least
one update was offered by a trial. -/
theorem levels_belong_to_corrections (rig : Rig σ η α) (config : Config α) (frequency : α)
    (stream : η) (progress : Progress σ) :
    let log := journal rig config frequency stream progress
    (∀ past trial future, log = past ++ .tried trial :: future →
      ∃ before burst block, past = before ++ Event.issued trial.commands ++ burst ∧
        Captures stream config.samplesPerCapture burst block ∧
        (∀ search channel offer, Search.offer? search channel trial = some offer →
          Stands search.kind search.direction channel
              (before ++ Event.issued trial.commands) burst offer.candidate ∧
            offer.level = Tone.level (block.samples channel)
              ((search.probe config).get channel) config.sampleRate) ∧
        (trial.direction = .tx → ∀ channel,
          Stands .iqBalance .rx channel (before ++ Event.issued trial.commands) burst
            (BestTracker.held .iqBalance (Search.receiveIq.offers channel log)))) ∧
    ∀ outcome after, calibrate rig config frequency stream progress = (.ok outcome, after) →
      (∀ channel, outcome.rxIq.correction.get channel =
        BestTracker.held .iqBalance (Search.receiveIq.offers channel log)) ∧
      ∀ (search : Search) (channel : Channel),
        0 < (search.result outcome).updates.get channel →
        ∃ past trial future offer, log = past ++ .tried trial :: future ∧
          search.offer? channel trial = some offer ∧
          (search.result outcome).correction.get channel = offer.candidate ∧
          (search.result outcome).level.get channel = some offer.level := by
  intro log
  refine ⟨fun past trial future split => ?_, fun outcome after success => ⟨fun channel => ?_,
    fun search channel taken => ?_⟩⟩
  · obtain ⟨⟨before, burst, block, rfl, captures, shows⟩, received⟩ :=
      sound_journal rig config frequency stream progress past trial future split
    refine ⟨before, burst, block, rfl, captures, fun search channel offer offered =>
      ⟨captures.stands_candidate offered before, shows search channel offer offered⟩,
      fun transmits channel => ?_⟩
    · apply captures.stands
      rw [← lastWrite_append_of_forall fun event served =>
        (captures.serves event served).write?_eq_none, received transmits channel]
      rfl
  · obtain ⟨state, tracks, reported⟩ :=
      tracks_journal rig config frequency stream progress success .receiveIq
    change (Search.receiveIq.result outcome).correction.get channel = _
    rw [reported, SearchState.get_correction_result, tracks.best_eq]
    rfl
  · obtain ⟨state, tracks, reported⟩ :=
      tracks_journal rig config frequency stream progress success search
    rw [reported, SearchState.get_updates_result, tracks.best_eq] at taken
    obtain ⟨offer, member, correction, level⟩ := BestTracker.mem_of_replay _ _ taken
    obtain ⟨past, trial, future, split, offered⟩ := Search.exists_trial_of_mem_offers member
    refine ⟨past, trial, future, offer, split, offered, ?_, ?_⟩
    · rw [reported, SearchState.get_correction_result, tracks.best_eq, correction]
    · rw [reported, SearchState.get_level_result, tracks.best_eq, level]

/-- With a gauge every search takes an offer on each channel. -/
private theorem updates_gauge_pos {target : Phasor ℝ} {outcome : Outcome ℝ}
    {after : Progress (Hosted (PerChannel (Phasor ℝ)))}
    (success : calibrate (Gauge.rig target) Gauge.config Config.parkingFrequency () Gauge.start =
      (.ok outcome, after)) (search : Search) (channel : Channel) :
    0 < (search.result outcome).updates.get channel := by
  obtain ⟨state, tracks, reported⟩ := tracks_journal _ _ _ _ _ success search
  rw [reported, SearchState.get_updates_result, tracks.best_eq]
  apply Nat.pos_of_ne_zero
  intro untaken
  have level := BestTracker.level_replay_eq_none _ _ untaken
  rcases BestTracker.foldl_offer (.initial search.kind.identity) (search.offers channel
    (journal (Gauge.rig target) Gauge.config Config.parkingFrequency () Gauge.start)) with
    ⟨-, kept⟩ | ⟨offer, -, -, held, -⟩
  · have tried := Reference.foldl_onGrid_ne_nil search.kind (BestTracker.held search.kind)
      (Reference.levelsOf (search.offers channel
        (journal (Gauge.rig target) Gauge.config Config.parkingFrequency () Gauge.start)))
      ⟨2, 3⟩ (by decide) Gauge.config.grids.tail []
    obtain ⟨offer, member⟩ := List.exists_mem_of_ne_nil _ tried
    refine (kept offer ?_ rfl).elim
    rw [tracks.offers_eq channel _ (Reference.measures_levelsOf _)]
    exact member
  · exact Option.some_ne_none _ (held.symm.trans level)

/-- With a gauge, what each search reports on each channel was offered by a trial in the
log. -/
theorem levels_belong_to_corrections_gauge : ∃ outcome after,
    calibrate (Gauge.rig ⟨1 / 3, -1 / 5⟩) Gauge.config Config.parkingFrequency () Gauge.start =
        (.ok outcome, after) ∧
      ∀ (search : Search) (channel : Channel), ∃ past trial future offer,
        journal (Gauge.rig ⟨1 / 3, -1 / 5⟩) Gauge.config Config.parkingFrequency () Gauge.start =
            past ++ .tried trial :: future ∧
          search.offer? channel trial = some offer ∧
          (search.result outcome).correction.get channel = offer.candidate ∧
          (search.result outcome).level.get channel = some offer.level := by
  obtain ⟨outcome, after, success⟩ := Gauge.exists_outcome ⟨1 / 3, -1 / 5⟩
  refine ⟨outcome, after, success, fun search channel => ?_⟩
  exact ((levels_belong_to_corrections (Gauge.rig _) Gauge.config Config.parkingFrequency ()
    Gauge.start).2 outcome after success).2 search channel
      (updates_gauge_pos success search channel)

end Calibration

end LoopbackCalibration
