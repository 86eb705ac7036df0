import LoopbackCalibration.Proofs.Calibration.Steps
import LoopbackCalibration.Proofs.Calibration.Tracking

/-! # The log of a calibration

The log of a calibration goes through three phases: without trials until the receive
search, with receive trials only until the transmit search, and with trials of both
kinds after it. In each phase the searches that are over track the log and the log is
sound. What happens between the searches leaves this as it is, so a calibration that
fails anywhere leaves a sound log (`Calibration.ensures_calibrate`).
-/

namespace LoopbackCalibration

open Action

variable {σ η α : Type} [Scalar α] {config : Config α} {stream : η}

/-- The receive correction that the receive trials of a log come to. -/
def receiveHeld (log : List (Event η α)) (channel : Channel) : Phasor α :=
  BestTracker.held .iqBalance (Search.receiveIq.offers channel log)

/-- During the receive search: the log is sound, and nothing was offered to another one. -/
structure Receiving (config : Config α) (stream : η) (found : SearchState α)
    (log : List (Event η α)) : Prop where
  kind_eq : found.kind = .iqBalance
  sound : ∀ receive, Sound config stream receive log
  untransmitted : ∀ (search : Search) channel, search.direction = .tx →
    search.offers channel log = []

/-- After the receive search: moreover it tracks the log. -/
structure Received (config : Config α) (stream : η) (found : SearchState α)
    (log : List (Event η α)) : Prop extends Receiving config stream found log where
  tracks : Search.receiveIq.Tracks config found log

/-- During the transmit search: the receive search tracks the log, and what it
found was written last. -/
structure Transmitting (config : Config α) (stream : η) (found : SearchState α)
    (transmit : Calibration.TransmitState α) (log : List (Event η α)) : Prop where
  tracksReceive : Search.receiveIq.Tracks config found log
  sound : Sound config stream (receiveHeld log) log
  applied : ∀ channel,
    lastWrite .iqBalance .rx channel log = some (receiveHeld log channel, .ok ())
  kind_iq : transmit.iq.kind = .iqBalance
  kind_dc : transmit.dc.kind = .dcOffset

/-- Before the transmit search: moreover nothing was offered to it. -/
structure Applied (config : Config α) (stream : η) (found : SearchState α)
    (log : List (Event η α)) : Prop extends Transmitting config stream found .initial log where
  untransmitted : ∀ (search : Search) channel, search.direction = .tx →
    search.offers channel log = []

/-- After the transmit search: every search tracks the log, which is sound. -/
structure Transmitted (config : Config α) (stream : η) (found : SearchState α)
    (transmit : Calibration.TransmitState α) (log : List (Event η α)) : Prop where
  tracksReceive : Search.receiveIq.Tracks config found log
  tracksIq : Search.transmitIq.Tracks config transmit.iq log
  tracksDc : Search.transmitDc.Tracks config transmit.dc log
  sound : Sound config stream (receiveHeld log) log

section Untried

variable {found : SearchState α} {transmit : Calibration.TransmitState α}
  {log later : List (Event η α)}

theorem Untried.receiveHeld_append (untried : Untried later) :
    receiveHeld (log ++ later) = receiveHeld log :=
  funext fun channel => by rw [receiveHeld, untried.offers_append, ← receiveHeld]

theorem Received.append (received : Received config stream found log) (untried : Untried later) :
    Received config stream found (log ++ later) where
  kind_eq := received.kind_eq
  sound receive := (received.sound receive).append untried
  untransmitted search channel transmits := by
    rw [untried.offers_append, received.untransmitted search channel transmits]
  tracks := received.tracks.of_offers_eq (untried.offers_append _)

theorem Transmitting.append (transmitting : Transmitting config stream found transmit log)
    (silent : Silent later) : Transmitting config stream found transmit (log ++ later) where
  tracksReceive := transmitting.tracksReceive.of_offers_eq (silent.1.offers_append _)
  sound := by
    rw [silent.1.receiveHeld_append]
    exact transmitting.sound.append silent.1
  applied channel := by
    rw [lastWrite_append_of_forall (silent.2 channel), transmitting.applied,
      silent.1.receiveHeld_append]
  kind_iq := transmitting.kind_iq
  kind_dc := transmitting.kind_dc

theorem Applied.append (applied : Applied config stream found log) (silent : Silent later) :
    Applied config stream found (log ++ later) where
  toTransmitting := applied.toTransmitting.append silent
  untransmitted search channel transmits := by
    rw [silent.1.offers_append, applied.untransmitted search channel transmits]

theorem Transmitted.append (transmitted : Transmitted config stream found transmit log)
    (untried : Untried later) : Transmitted config stream found transmit (log ++ later) where
  tracksReceive := transmitted.tracksReceive.of_offers_eq (untried.offers_append _)
  tracksIq := transmitted.tracksIq.of_offers_eq (untried.offers_append _)
  tracksDc := transmitted.tracksDc.of_offers_eq (untried.offers_append _)
  sound := by
    rw [untried.receiveHeld_append]
    exact transmitted.sound.append untried

end Untried

namespace Calibration

variable {rig : Rig σ η α}

private theorem ensuresLog_receiving :
    EnsuresLog (Receiving config stream (.initial .iqBalance))
      (searchReceive (Journal.rig rig) config stream) (Receiving config stream)
      (fun log => ∀ receive, Sound config stream receive log) := by
  unfold searchReceive
  refine ensuresLog_tryGrids (fun start point found => ?_) ?_ _ _
  swap
  · exact fun found log receiving => receiving.sound
  apply (emits_tryReceive start point found).ensuresLog
  · rintro log found' emitted receiving ⟨iq, images, -, tries, rfl⟩
    refine ⟨receiving.kind_eq, fun receive => (receiving.sound receive).tries tries nofun, ?_⟩
    intro search channel transmits
    rw [tries.offers_append (by simp [transmits, Trial.direction]),
      receiving.untransmitted search channel transmits]
  · intro log emitted receiving confined receive
    exact (receiving.sound receive).append confined.untried

private theorem ensuresLog_transmitting {found : SearchState α} :
    EnsuresLog (Transmitting config stream found .initial)
      (searchTransmit (Journal.rig rig) config stream) (Transmitting config stream found)
      (fun log => Sound config stream (receiveHeld log) log) := by
  unfold searchTransmit
  refine ensuresLog_tryGrids (fun start point transmit => ?_) ?_ _ _
  swap
  · exact fun transmit log transmitting => transmitting.sound
  apply (emits_tryTransmit start point transmit).ensuresLog
  · rintro log transmit' emitted transmitting ⟨iq, dc, images, leakages, -, -, tries, rfl⟩
    have apart : (Trial.transmit iq dc images leakages).direction ≠ .rx := Direction.noConfusion
    have same : ∀ channel, Search.receiveIq.offers channel (log ++ emitted) =
        Search.receiveIq.offers channel log := fun channel =>
      tries.offers_append (by exact apart)
    have held : receiveHeld (log ++ emitted) = receiveHeld log :=
      funext fun channel => by rw [receiveHeld, same, ← receiveHeld]
    refine ⟨transmitting.tracksReceive.of_offers_eq same, ?_, fun channel => ?_,
      transmitting.kind_iq, transmitting.kind_dc⟩
    · rw [held]
      exact transmitting.sound.tries tries fun _ => transmitting.applied
    · rw [held, tries.lastWrite_append apart, transmitting.applied]
  · intro log emitted transmitting confined
    rw [confined.untried.receiveHeld_append]
    exact transmitting.sound.append confined.untried

/-- The receive search, started with a log without trials. -/
theorem ensuresLog_searchReceive :
    EnsuresLog Untried (searchReceive (Journal.rig rig) config stream)
      (Received config stream) (fun log => Sound config stream (receiveHeld log) log) := by
  have receiving : EnsuresLog Untried (searchReceive (Journal.rig rig) config stream)
      (Receiving config stream) (fun log => Sound config stream (receiveHeld log) log) :=
    ensuresLog_receiving.weaken
      (fun log untried => ⟨rfl, fun _ => sound_nil.append untried,
        fun search channel _ => untried.offers_eq_nil search channel⟩)
      (fun _ _ => id) fun log sound => sound _
  have tracked := EnsuresLog.and_tracks .receiveIq id receiving follows_tryReceive
    (fun log untried channel => untried.offers_eq_nil _ channel) rfl
    fun found log receiving => receiving.kind_eq
  exact tracked.weaken (fun _ => id)
    (fun found log ⟨receiving, tracks⟩ => ⟨receiving, tracks⟩) fun _ => id

/-- The transmit search, started with the receive corrections in place. -/
theorem ensuresLog_searchTransmit {found : SearchState α} :
    EnsuresLog (Applied config stream found) (searchTransmit (Journal.rig rig) config stream)
      (Transmitted config stream found) (fun log => Sound config stream (receiveHeld log) log) := by
  have transmitting : EnsuresLog (Applied config stream found)
      (searchTransmit (Journal.rig rig) config stream) (Transmitting config stream found)
      (fun log => Sound config stream (receiveHeld log) log) :=
    ensuresLog_transmitting.weaken (fun _ applied => applied.toTransmitting) (fun _ _ => id)
      fun _ => id
  have iq := EnsuresLog.and_tracks .transmitIq TransmitState.iq transmitting
    follows_tryTransmit_iq
    (fun log applied channel => applied.untransmitted .transmitIq channel rfl) rfl
    fun found log transmitting => transmitting.kind_iq
  have dc := EnsuresLog.and_tracks .transmitDc TransmitState.dc iq follows_tryTransmit_dc
    (fun log applied channel => applied.untransmitted .transmitDc channel rfl) rfl
    fun found log ⟨transmitting, _⟩ => transmitting.kind_dc
  exact dc.weaken (fun _ => id) (fun found log ⟨⟨transmitting, iq⟩, dc⟩ =>
    ⟨transmitting.tracksReceive, iq, dc, transmitting.sound⟩) fun _ => id

section Steps

variable {β : Type} {action : Action (Progress (Journal σ η α)) (Halt CalibrationError) β}
  {found : SearchState α} {transmit : TransmitState α}

/-- An assertion that the events of an action leave alone is kept by the action. -/
private theorem Emits.keeps {kind known : List (Event η α) → Prop}
    (emits : Emits action (fun _ => kind) Untried)
    (kept : ∀ log later, known log → kind later → known (log ++ later))
    (sound : ∀ log, known log → Sound config stream (receiveHeld log) log) :
    EnsuresLog known action (fun _ => known)
      (fun log => Sound config stream (receiveHeld log) log) := by
  apply emits.ensuresLog (fun log _ later holds => kept log later holds)
  intro log later holds untried
  rw [untried.receiveHeld_append]
  exact (sound log holds).append untried

private theorem keeps_untried (emits : Emits action (fun _ => Untried) Untried) :
    EnsuresLog Untried action (fun _ => Untried)
      (fun log => Sound config stream (receiveHeld log) log) :=
  emits.keeps (fun _ _ => Untried.append) fun _ => sound_nil.append

private theorem keeps_applied (emits : Emits action (fun _ => Silent) Untried) :
    EnsuresLog (Applied config stream found) action (fun _ => Applied config stream found)
      (fun log => Sound config stream (receiveHeld log) log) :=
  emits.keeps (fun _ _ => Applied.append) fun _ applied => applied.sound

private theorem keeps_transmitted (emits : Emits action (fun _ => Untried) Untried) :
    EnsuresLog (Transmitted config stream found transmit) action
      (fun _ => Transmitted config stream found transmit)
      (fun log => Sound config stream (receiveHeld log) log) :=
  emits.keeps (fun _ _ => Transmitted.append) fun _ transmitted => transmitted.sound

/-- Writing what the receive search found puts it in place for the transmit search. -/
private theorem applies_received :
    EnsuresLog (Received config stream found)
      (issue (Journal.rig rig) (found.commands .rx)) (fun _ => Applied config stream found)
      (fun log => Sound config stream (receiveHeld log) log) := by
  refine (emits_issue (found.commands .rx)).ensuresLog ?_ fun log emitted received given =>
    (received.append (untried_of_gives given)).sound _
  rintro log _ _ received rfl
  have untried := untried_issued (η := η) (found.commands .rx)
  refine ⟨⟨(received.append untried).tracks, (received.append untried).sound _, fun channel => ?_,
    rfl, rfl⟩, (received.append untried).untransmitted⟩
  have held : found.corrections.get channel = receiveHeld log channel := by
    rw [SearchState.corrections, PerChannel.get_map, received.tracks.best_eq]
    rfl
  rw [untried.receiveHeld_append, lastWrite_append, SearchState.commands, received.kind_eq,
    lastWrite_issued_writeCorrections, Option.some_or, held]

end Steps

/-- A calibration. -/
theorem ensuresLog_calibrate (frequency : α) :
    EnsuresLog Untried (calibrate (Journal.rig rig) config frequency stream)
      (fun outcome log => ∃ found transmit, Transmitted config stream found transmit log ∧
        outcome.rxIq = found.result ∧ outcome.txIq = transmit.iq.result ∧
          outcome.txDc = transmit.dc.result)
      (fun log => Sound config stream (receiveHeld log) log) := by
  unfold calibrate
  refine (keeps_untried silent_clock.untried).bind fun started => ?_
  refine (keeps_untried (silent_enter .initial).untried).bind fun _ => ?_
  refine (keeps_untried (untried_issue _)).bind fun _ => ?_
  refine (keeps_untried silent_advance.untried).bind fun _ => ?_
  refine (keeps_untried untried_adjustGain).bind fun rxPgaGain => ?_
  refine (keeps_untried silent_advance.untried).bind fun _ => ?_
  refine (keeps_untried silent_capture.untried).bind fun rxInitial => ?_
  refine ensuresLog_searchReceive.bind fun found => ?_
  refine applies_received.bind fun _ => ?_
  refine (keeps_applied silent_capture).bind fun rxFinal => ?_
  refine (keeps_applied silent_advance).bind fun _ => ?_
  refine (keeps_applied silent_issue_separation).bind fun _ => ?_
  refine (keeps_applied silent_capture).bind fun txInitial => ?_
  refine ensuresLog_searchTransmit.bind fun transmit => ?_
  refine (keeps_transmitted (untried_issue _)).bind fun _ => ?_
  refine (keeps_transmitted (untried_issue _)).bind fun _ => ?_
  refine (keeps_transmitted silent_capture.untried).bind fun txFinal => ?_
  refine (keeps_transmitted silent_advance.untried).bind fun _ => ?_
  refine (keeps_transmitted silent_countCandidates.untried).bind fun candidates => ?_
  refine (keeps_transmitted silent_clock.untried).bind fun finished => ?_
  exact ensuresLog_pure _ fun log transmitted => ⟨found, transmit, transmitted, rfl, rfl, rfl⟩

variable (rig : Rig σ η α) (config : Config α) (frequency : α) (stream : η)
  (progress : Progress σ)

/-- **Every log is sound**, whether the calibration succeeds or fails. -/
theorem sound_journal :
    Sound config stream (receiveHeld (journal rig config frequency stream progress))
      (journal rig config frequency stream progress) := by
  rcases (ensuresLog_calibrate frequency).good_or_bad_journal (List.forall_mem_nil _) progress with
    ⟨outcome, found, transmit, transmitted, -⟩ | sound
  · exact transmitted.sound
  · exact sound

/-- The searches of a successful calibration track its log. -/
theorem transmitted_journal {outcome : Outcome α} {after : Progress σ}
    (success : calibrate rig config frequency stream progress = (.ok outcome, after)) :
    ∃ found transmit,
      Transmitted config stream found transmit (journal rig config frequency stream progress) ∧
        outcome.rxIq = found.result ∧ outcome.txIq = transmit.iq.result ∧
          outcome.txDc = transmit.dc.result :=
  (ensuresLog_calibrate frequency).good_journal (List.forall_mem_nil _) progress success

/-- What a successful calibration reports for a search is what tracks its log. -/
theorem tracks_journal {outcome : Outcome α} {after : Progress σ}
    (success : calibrate rig config frequency stream progress = (.ok outcome, after))
    (search : Search) :
    ∃ state : SearchState α, search.Tracks config state
        (journal rig config frequency stream progress) ∧
      search.result outcome = state.result := by
  obtain ⟨found, transmit, transmitted, receiveIq, transmitIq, transmitDc⟩ :=
    transmitted_journal rig config frequency stream progress success
  cases search with
  | receiveIq => exact ⟨found, transmitted.tracksReceive, receiveIq⟩
  | transmitIq => exact ⟨transmit.iq, transmitted.tracksIq, transmitIq⟩
  | transmitDc => exact ⟨transmit.dc, transmitted.tracksDc, transmitDc⟩

end Calibration

end LoopbackCalibration
