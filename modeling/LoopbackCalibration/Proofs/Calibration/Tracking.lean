import LoopbackCalibration.Proofs.Calibration.Measured

/-! # What the searches keep track of

The state of a search *tracks* a log when on each channel it holds what the offers in
the log come to, and when these offers are the ones that the reference makes for their
levels (`Search.Tracks`). Searching makes a log that is tracked and sound.
-/

namespace LoopbackCalibration

open Action

variable {σ η α : Type} [Scalar α] {config : Config α} {stream : η}

@[simp] theorem SearchState.get_offerBoth (state : SearchState α)
    (candidates : PerChannel (Phasor α)) (levels : PerChannel α) (channel : Channel) :
    (state.offerBoth candidates levels).best.get channel =
      (state.best.get channel).offer (candidates.get channel) (levels.get channel) := by
  cases channel <;> rfl

@[simp] theorem SearchState.get_correction_result (state : SearchState α) (channel : Channel) :
    state.result.correction.get channel = (state.best.get channel).correction := by
  cases channel <;> rfl

@[simp] theorem SearchState.get_level_result (state : SearchState α) (channel : Channel) :
    state.result.level.get channel = (state.best.get channel).level := by
  cases channel <;> rfl

@[simp] theorem SearchState.get_updates_result (state : SearchState α) (channel : Channel) :
    state.result.updates.get channel = (state.best.get channel).updates := by
  cases channel <;> rfl

/-- The state of a search agrees with the offers of a log. -/
structure Search.Tracks (config : Config α) (search : Search) (state : SearchState α)
    (log : List (Event η α)) : Prop where
  /-- The state is of the kind that is searched for. -/
  kind_eq : state.kind = search.kind
  /-- Each tracker was made all offers of its channel, and no other. -/
  best_eq : ∀ channel, state.best.get channel = .replay search.kind (search.offers channel log)
  /-- The offers are what the reference offers at these levels. -/
  offers_eq : ∀ channel levels, Reference.Measures levels (search.offers channel log) →
    search.offers channel log =
      config.grids.foldl (Reference.onGrid search.kind (BestTracker.held search.kind) levels) []

/-- Only the offers of the own search matter. -/
theorem Search.Tracks.of_offers_eq {search : Search} {state : SearchState α}
    {log log' : List (Event η α)} (tracks : search.Tracks config state log)
    (same : ∀ channel, search.offers channel log' = search.offers channel log) :
    search.Tracks config state log' where
  kind_eq := tracks.kind_eq
  best_eq channel := by rw [same, tracks.best_eq]
  offers_eq channel levels measures := by
    rw [same] at measures ⊢
    exact tracks.offers_eq channel levels measures

namespace Calibration

variable {rig : Rig σ η α}

/-- One trial of the receive search. Broken off, it has at most written its corrections and
taken a capture. -/
theorem emits_tryReceive (start : SearchState α) (point : TestPoint α) (found : SearchState α) :
    Emits (tryReceive (Journal.rig rig) config stream start point found)
      (fun found' emitted => ∃ iq images, iq = start.corrections.map (composeIq point.iq) ∧
        Tries config stream (.receive iq images) emitted ∧ found' = found.offerBoth iq images)
      (Confined (· ∈ writeCorrections .iqBalance .rx
        (start.corrections.map (composeIq point.iq)))) := by
  unfold tryReceive
  refine (emits_issue _).bind (fun _ => confined_of_gives) fun _ written same => ?_
  refine (emits_capture config stream).bind
    (fun burst served => (same ▸ confined_issued _).append (confined_of_serves served))
    fun block burst captures => ?_
  refine (emits_note _).bind (fun _ => False.elim) fun _ told noted => ?_
  refine emits_pure _ ⟨_, _, rfl,
    ⟨burst, block, by simp [same, noted, Trial.commands], captures, ?_⟩, rfl⟩
  rintro (_ | _ | _) channel offer ⟨⟩
  simp [Tone.blockLevels, Search.probe]

/-- One trial of both transmit searches. Broken off, it has at most written its corrections
and taken a capture. -/
theorem emits_tryTransmit (start : TransmitState α) (point : TestPoint α)
    (found : TransmitState α) :
    Emits (tryTransmit (Journal.rig rig) config stream start point found)
      (fun found' emitted => ∃ iq dc images leakages,
        iq = start.iq.corrections.map (composeIq point.iq) ∧
          dc = start.dc.corrections.map (fun offset => offsetDc offset point.dc) ∧
          Tries config stream (.transmit iq dc images leakages) emitted ∧
          found' = ⟨found.iq.offerBoth iq images, found.dc.offerBoth dc leakages⟩)
      (Confined (· ∈ writeTransmit (start.iq.corrections.map (composeIq point.iq))
        (start.dc.corrections.map fun offset => offsetDc offset point.dc))) := by
  unfold tryTransmit
  refine (emits_issue _).bind (fun _ => confined_of_gives) fun _ written same => ?_
  refine (emits_capture config stream).bind
    (fun burst served => (same ▸ confined_issued _).append (confined_of_serves served))
    fun block burst captures => ?_
  refine (emits_note _).bind (fun _ => False.elim) fun _ told noted => ?_
  refine emits_pure _ ⟨_, _, _, _, rfl, rfl,
    ⟨burst, block, by simp [same, noted, Trial.commands], captures, ?_⟩, rfl⟩
  rintro (_ | _ | _) channel offer ⟨⟩ <;> simp [Tone.blockLevels, Search.probe]

/-- A search whose trials emit what they offer follows its tracker. -/
private theorem follows_of_emits {β : Type} {search : Search} {channel : Channel}
    {tracker : β → BestTracker α}
    {attempt : β → TestPoint α → β →
      Action (Progress (Journal σ η α)) (Halt CalibrationError) β}
    (emits : ∀ start point found, Emits (attempt start point found)
      (fun found' emitted => ∃ offer : Offer α, search.offers channel emitted = [offer] ∧
        offer.candidate = search.kind.refine (tracker start).correction (search.kind.delta point) ∧
        tracker found' = (tracker found).offer offer.candidate offer.level) Untried) :
    Descent.Follows search.kind tracker
      (fun progress => search.offers channel progress.world.events) attempt := by
  intro start point found past
  change EnsuresLog (fun log => search.offers channel log = past) _
    (fun found' log => ∃ offer : Offer α,
      offer.candidate = search.kind.refine (tracker start).correction (search.kind.delta point) ∧
        search.offers channel log = past ++ [offer] ∧
        tracker found' = (tracker found).offer offer.candidate offer.level) fun _ => True
  refine (emits start point found).ensuresLog ?_ fun _ _ _ _ => trivial
  rintro events found' emitted rfl ⟨offer, offered, candidate, taken⟩
  exact ⟨offer, candidate, by rw [Search.offers_append, offered], taken⟩

/-- A search that follows its trackers from the start tracks its log in the end. -/
theorem EnsuresLog.and_tracks {β : Type} (search : Search) (state : β → SearchState α)
    {attempt : β → TestPoint α → β →
      Action (Progress (Journal σ η α)) (Halt CalibrationError) β} {found : β}
    {before bad : List (Event η α) → Prop} {good : β → List (Event η α) → Prop}
    (ensures : EnsuresLog before (Descent.tryGrids attempt config.grids found) good bad)
    (follows : ∀ channel, Descent.Follows search.kind (fun found => (state found).best.get channel)
      (fun progress => search.offers channel progress.world.events) attempt)
    (unoffered : ∀ log, before log → ∀ channel, search.offers channel log = [])
    (initial : state found = .initial search.kind)
    (kind_eq : ∀ found' log, good found' log → (state found').kind = search.kind) :
    EnsuresLog before (Descent.tryGrids attempt config.grids found)
      (fun found' log => good found' log ∧ search.Tracks config (state found') log) bad := by
  have empty : ∀ channel, (state found).best.get channel = .replay search.kind [] := by
    intro channel
    rw [initial]
    cases channel <;> rfl
  have reference := fun channel =>
    Descent.ensures_reference (follows channel) config.grids found [] (empty channel)
  refine (Ensures.and_forall ensures fun channel => (reference channel).weaken
    (fun progress known => unoffered progress.world.events known channel) (fun _ _ => id)
    fun _ _ => id).weaken (fun _ => id) ?_ fun _ _ => id
  exact fun found' after ⟨holds, tracks⟩ =>
    ⟨holds, kind_eq _ _ holds, fun channel => (tracks channel).1, fun channel => (tracks channel).2⟩

theorem follows_tryReceive (channel : Channel) :
    Descent.Follows Search.receiveIq.kind (fun found => found.best.get channel)
      (fun progress => Search.receiveIq.offers channel progress.world.events)
      (tryReceive (Journal.rig rig) config stream) := by
  refine follows_of_emits fun start point found => (emits_tryReceive start point found).weaken ?_
    fun _ => Confined.untried
  rintro found' emitted ⟨iq, images, rfl, tries, rfl⟩
  refine ⟨_, tries.offers_eq .receiveIq channel, ?_, SearchState.get_offerBoth _ _ _ channel⟩
  simp only [SearchState.corrections, PerChannel.get_map]
  rfl

theorem follows_tryTransmit_iq (channel : Channel) :
    Descent.Follows Search.transmitIq.kind (fun found => found.iq.best.get channel)
      (fun progress => Search.transmitIq.offers channel progress.world.events)
      (tryTransmit (Journal.rig rig) config stream) := by
  refine follows_of_emits fun start point found => (emits_tryTransmit start point found).weaken ?_
    fun _ => Confined.untried
  rintro found' emitted ⟨iq, dc, images, leakages, rfl, rfl, tries, rfl⟩
  refine ⟨_, tries.offers_eq .transmitIq channel, ?_, SearchState.get_offerBoth _ _ _ channel⟩
  simp only [SearchState.corrections, PerChannel.get_map]
  rfl

theorem follows_tryTransmit_dc (channel : Channel) :
    Descent.Follows Search.transmitDc.kind (fun found => found.dc.best.get channel)
      (fun progress => Search.transmitDc.offers channel progress.world.events)
      (tryTransmit (Journal.rig rig) config stream) := by
  refine follows_of_emits fun start point found => (emits_tryTransmit start point found).weaken ?_
    fun _ => Confined.untried
  rintro found' emitted ⟨iq, dc, images, leakages, rfl, rfl, tries, rfl⟩
  refine ⟨_, tries.offers_eq .transmitDc channel, ?_, SearchState.get_offerBoth _ _ _ channel⟩
  simp only [SearchState.corrections, PerChannel.get_map]
  rfl

end Calibration

end LoopbackCalibration
