import LoopbackCalibration.Proofs.Calibration.Captured
import LoopbackCalibration.Proofs.Calibration.Completion
import LoopbackCalibration.Proofs.Calibration.Emission
import LoopbackCalibration.Proofs.Calibration.Ledger
import LoopbackCalibration.Proofs.Scalar.Places

/-! # The adjustment of the receive gain

A calibration that gets past the gain adjustment has set the gain of both channels to where the
adjustment starts, taken one capture, and then set the gain of each channel once more, to what the
capture brought to that channel makes it. It sets no receive gain before or after
(`Calibration.Adjusts`). Whatever the capture brought, the gain is within its bound, and it does not
rise with the level of the channel (`Calibration.receiveGain_adjusted`).
-/

namespace LoopbackCalibration

open Action Arithmetic

variable {σ η α β ε : Type}

section Heard

/-- What a delivery brings to one channel. -/
def Delivery.only (channel : Channel) (delivery : Delivery α) : Delivery α :=
  ⟨delivery.count, [delivery.buffers.getD channel.index #[]]⟩

/-- What an event brings to one channel. -/
def Event.brought? (channel : Channel) : Event η α → Option (Delivery α)
  | .read _ _ _ (.ok delivery) => some (delivery.only channel)
  | _ => none

variable [Arithmetic α]

/-- The samples of one channel after one more delivery to it, up to as many as requested. -/
def Samples.extend (requested : Nat) (samples : Array (Phasor α)) (own : Delivery α) :
    Array (Phasor α) :=
  samples ++ own.taken 0 (min own.count (requested - samples.size))

theorem RawCapture.get_gather (requested : Nat) (channel : Channel) (raw : RawCapture α)
    (event : Event η α) :
    (raw.gather requested event).channels.get channel =
      match event.brought? channel with
      | some own => Samples.extend requested (raw.channels.get channel) own
      | none => raw.channels.get channel := by
  cases event with
  | read stream rooms wait outcome =>
      cases outcome with
      | error status => rfl
      | ok delivery =>
          dsimp only [Event.brought?, Samples.extend]
          rw [raw.size_get]
          cases channel <;> rfl
  | _ => rfl

/-- The samples of a channel come from what was brought to this channel. -/
theorem RawCapture.get_foldl_gather (requested : Nat) (channel : Channel) (raw : RawCapture α)
    (events : List (Event η α)) :
    (events.foldl (.gather requested) raw).channels.get channel =
      (events.filterMap (Event.brought? channel)).foldl (Samples.extend requested)
        (raw.channels.get channel) := by
  rw [List.foldl_filterMap]
  refine (List.foldl_hom (fun held : RawCapture α => held.channels.get channel) ?_).symm
  intro held event
  rw [held.get_gather]
  cases event.brought? channel <;> rfl

end Heard

section Levels

variable [Scalar α]

/-- The level of the tone in what was delivered to one channel. -/
def Config.levelOf (config : Config α) (own : List (Delivery α)) : α :=
  Tone.level (Samples.removeMean .stored (own.foldl (Samples.extend config.samplesPerCapture) #[]))
    config.txDelta config.sampleRate

theorem Captures.get_blockLevels {config : Config α} {stream : η} {burst : List (Event η α)}
    {block : SampleBlock α} (captures : Captures stream config.samplesPerCapture burst block)
    (channel : Channel) :
    (Tone.blockLevels block (.both config.txDelta) config.sampleRate).get channel =
      config.levelOf (burst.filterMap (Event.brought? channel)) := by
  have samples := RawCapture.get_foldl_gather config.samplesPerCapture channel .empty burst
  rw [RawCapture.empty, PerChannel.get_both] at samples
  rw [Tone.blockLevels, PerChannel.get_ofFn, PerChannel.get_both, captures.block_eq,
    RawCapture.block, SampleBlock.samples, SampleBlock.ofRaw, PerChannel.get_map, Config.levelOf,
    ← samples]
  rfl

end Levels

namespace Config

variable [Arithmetic α] (config : Config α) {low high : α}

/-- The adjusted gain keeps to its bound, whatever the level is. -/
theorem adjustedGain_le [Total α] (bounded : isNumber config.maxRxPgaGain) (level : α) :
    config.adjustedGain level ≤ config.maxRxPgaGain :=
  smaller_le bounded _

/-- The adjusted gain does not rise with the level. -/
theorem adjustedGain_antitone [OrderedSums α] (bounded : isNumber config.maxRxPgaGain)
    (below : low ≤ high) : config.adjustedGain high ≤ config.adjustedGain low :=
  ((falls_sub _ below).add _).smaller_le_smaller bounded

end Config

/-- What an event sets as the receive gain of a channel, and with which outcome. -/
def Event.receiveGain? (channel : Channel) : Event η α → Option (α × Except DeviceError Unit)
  | .commanded (.gain .rx channel' .pga decibels) outcome =>
    if channel' = channel then some (decibels, outcome) else none
  | _ => none

theorem Event.Serves.receiveGain?_eq_none {stream : η} {event : Event η α}
    (serves : event.Serves stream) (channel : Channel) : event.receiveGain? channel = none := by
  rcases serves with ⟨count, outcome, rfl⟩ | ⟨rooms, wait, outcome, rfl⟩ <;> rfl

/-- Each channel has its gain set once by the commands that set both. -/
theorem filterMap_receiveGain?_issued (channel : Channel) (gains : PerChannel α) :
    (Event.issued (η := η) (Config.receiveGain gains)).filterMap (Event.receiveGain? channel) =
      [(gains.get channel, .ok ())] := by
  cases channel <;> rfl

/-- Whether a command sets a receive gain. -/
def Command.setsReceiveGain : Command α → Bool
  | .gain .rx _ .pga _ => true
  | _ => false

theorem Command.receiveGain?_eq_none {command : Command α}
    (other : command.setsReceiveGain = false) (channel : Channel)
    (outcome : Except DeviceError Unit) :
    (Event.commanded (η := η) command outcome).receiveGain? channel = none := by
  cases command with
  | gain direction channel' stage decibels =>
      cases direction <;> cases stage <;> first | rfl | cases other
  | _ => rfl

/-- An entry that is not part of a gain adjustment and sets no receive gain. -/
structure Entry.Apart (entry : Entry η α) : Prop where
  stage_ne : entry.stage ≠ .rxGainAdjust
  receiveGain?_eq_none : ∀ channel, entry.event.receiveGain? channel = none

namespace Calibration

section Adjusts

variable [Scalar α]

/-- What a gain adjustment makes of a rig around its capture. -/
def adjustment (config : Config α) (burst : List (Event η α)) (gains : PerChannel α) :
    List (Event η α) :=
  Event.issued (Config.receiveGain (.both config.rxPgaGain)) ++ burst ++
    Event.issued (Config.receiveGain gains)

/-- Among the entries is one gain adjustment, with one capture, from which the gain of each channel
follows through what was brought to this channel. Everything else is apart from it. -/
structure Adjusts (config : Config α) (stream : η) (burst : List (Event η α))
    (gains : PerChannel α) (entries : List (Entry η α)) : Prop where
  captures : ∃ block, Captures stream config.samplesPerCapture burst block
  get_gains : ∀ channel, gains.get channel =
    config.adjustedGain (config.levelOf (burst.filterMap (Event.brought? channel)))
  placed : ∃ before after,
    entries = before ++ (adjustment config burst gains).map (Entry.mk .rxGainAdjust) ++ after ∧
      (∀ entry ∈ before, entry.Apart) ∧ ∀ entry ∈ after, entry.Apart

variable {config : Config α} {stream : η} {burst : List (Event η α)} {gains : PerChannel α}
  {entries : List (Entry η α)}

/-- Each channel has its gain set twice: first to where the adjustment starts, then to the gain
that it comes to. -/
theorem Adjusts.receiveGains (adjusts : Adjusts config stream burst gains entries)
    (channel : Channel) :
    entries.filterMap (fun entry => entry.event.receiveGain? channel) =
      [(config.rxPgaGain, .ok ()), (gains.get channel, .ok ())] := by
  obtain ⟨before, after, rfl, apart, apart'⟩ := adjusts.placed
  obtain ⟨block, captures⟩ := adjusts.captures
  have none_of_apart : ∀ others : List (Entry η α), (∀ entry ∈ others, entry.Apart) →
      others.filterMap (fun entry => entry.event.receiveGain? channel) = [] :=
    fun others apart => List.filterMap_eq_nil_iff.mpr fun entry member =>
      (apart entry member).receiveGain?_eq_none channel
  have none_in_burst : burst.filterMap (Event.receiveGain? channel) = [] :=
    List.filterMap_eq_nil_iff.mpr fun event member =>
      (captures.serves event member).receiveGain?_eq_none channel
  rw [List.filterMap_append, List.filterMap_append, none_of_apart before apart,
    none_of_apart after apart', List.filterMap_map]
  change [] ++ (adjustment config burst gains).filterMap (Event.receiveGain? channel) ++ [] = _
  rw [adjustment, List.filterMap_append, List.filterMap_append, none_in_burst,
    filterMap_receiveGain?_issued, filterMap_receiveGain?_issued, PerChannel.get_both]
  rfl

/-- An entry that is apart may follow. -/
theorem Adjusts.concat (adjusts : Adjusts config stream burst gains entries) {entry : Entry η α}
    (apart : entry.Apart) : Adjusts config stream burst gains (entries ++ [entry]) where
  captures := adjusts.captures
  get_gains := adjusts.get_gains
  placed := by
    obtain ⟨before, after, rfl, apart', apart''⟩ := adjusts.placed
    refine ⟨before, after ++ [entry], by simp only [List.append_assoc], apart', ?_⟩
    exact List.forall_mem_append.mpr ⟨apart'', List.forall_mem_singleton.mpr apart⟩

end Adjusts

/-- Entries of a kind stay so when the entry is added. -/
def Accepts (kind : List (Entry η α) → Prop) (entry : Entry η α) : Prop :=
  ∀ entries, kind entries → kind (entries ++ [entry])

/-- A step leaves the stage as it is and the entries of a ledger of their kind, also when it
fails. -/
abbrev Stays (stage : Stage) (kind : List (Entry η α) → Prop) (step : Step (Ledger σ η α) β) :
    Prop :=
  Ensures (At stage fun ledger => kind ledger.entries) step
    (fun _ => At stage fun ledger => kind ledger.entries)
    fun _ => At stage fun ledger => kind ledger.entries

section Staying

variable {rig : Rig σ η α} {config : Config α} {stream : η} {stage label : Stage}
  {kind : List (Entry η α) → Prop}

private theorem ensures_record {event : Except ε β → Event η α} {action : Action σ ε β}
    (accepts : ∀ result, Accepts kind ⟨label, event result⟩) :
    Ensures (fun ledger => kind ledger.entries) (Ledger.record label event action)
      (fun _ ledger => kind ledger.entries) fun _ ledger => kind ledger.entries := by
  intro ledger known
  unfold Ledger.record
  rcases action ledger.world with ⟨_ | _, world⟩ <;> exact accepts _ _ known

theorem stays_pure (value : β) :
    Stays stage kind (Action.pure value : Step (Ledger σ η α) β) :=
  ensures_pure value fun _ => id

theorem stays_clock : Stays stage kind (clock (Ledger.rig rig label)) :=
  fun _ => id

theorem stays_issue {commands : List (Command α)}
    (accepts : ∀ command ∈ commands, ∀ outcome,
      Accepts kind ⟨label, .commanded command outcome⟩) :
    Stays stage kind (issue (Ledger.rig rig label) commands) := by
  intro progress
  have issues : Stays stage kind
      (issueDuring (Ledger.rig rig label) progress.stage commands) := by
    refine ensures_forEach fun command member => Ensures.mapError ?_
    exact ensures_onWorld_at (ensures_record (accepts command member)) stage
  exact issues progress

theorem stays_capture [Arithmetic α]
    (accepts : ∀ event, event.Serves stream → Accepts kind ⟨label, event⟩) :
    Stays stage kind (capture (Ledger.rig rig label) config stream) := by
  have serves : (Ledger.rig rig label).Serves stream (fun ledger => kind ledger.entries)
      fun _ ledger => kind ledger.entries := {
    activate count := ensures_record fun outcome => accepts _ (.inl ⟨count, outcome, rfl⟩)
    read rooms wait := (ensures_record fun outcome =>
        accepts _ (.inr ⟨rooms, wait, outcome, rfl⟩)).weaken (fun _ => id) (fun _ _ => id)
      fun status ledger known => by split_ifs <;> simp [known]
    now _ := id }
  refine ensures_capture (serves.bursts _ _) ?_
  rintro (cause | _) ledger leaves
  · exact leaves.elim id And.right
  · exact leaves

theorem stays_note {trial : Trial α} (accepts : Accepts kind ⟨label, .tried trial⟩) :
    Stays stage kind (note (Ledger.rig rig label) trial) :=
  fun _ => And.imp_right (accepts _)

theorem stays_countCandidates [Arithmetic α] :
    Stays (σ := σ) stage kind (countCandidates config) := by
  unfold countCandidates
  split_ifs
  · exact stays_pure _
  · exact ensures_fail _ fun _ => id

theorem stays_tryGrids [Scalar α] {attempt : β → TestPoint α → β → Step (Ledger σ η α) β}
    {grids : List Grid} (each : ∀ start point found, Stays stage kind (attempt start point found))
    (found : β) : Stays stage kind (Descent.tryGrids attempt grids found) :=
  Descent.ensures_tryGrids each (fun _ _ _ _ _ => id) found

end Staying

/-- What a step writes into a journal it writes into the ledger, with its stage. -/
theorem Emits.inLedger {step : Action (Progress (Journal σ η α)) ε β}
    {step' : Action (Progress (Ledger σ η α)) ε β} {success : β → List (Event η α) → Prop}
    {failure : List (Event η α) → Prop} {earlier : List (Entry η α)} {stage : Stage}
    (emits : Emits step success failure)
    (shadows : Action.Shadows (Progress.map (Ledger.behind earlier stage)) step step') :
    Ensures (fun progress => progress.world.entries = earlier) step'
      (fun value progress => ∃ emitted,
        progress.world.entries = earlier ++ emitted.map (Entry.mk stage) ∧ success value emitted)
      fun _ progress => ∃ emitted,
        progress.world.entries = earlier ++ emitted.map (Entry.mk stage) ∧ failure emitted := by
  rintro ⟨current, world, earlier⟩ rfl
  let start : Progress (Journal σ η α) := ⟨current, .start world⟩
  have start_eq : start.map (Ledger.behind earlier stage) = ⟨current, world, earlier⟩ := by
    simp only [start, Progress.map, Ledger.behind, Journal.start, List.map_nil, List.append_nil]
  have written : ∀ (after : Progress (Journal σ η α)) (emitted : List (Event η α)),
      after.world.events = start.world.events ++ emitted →
        (after.map (Ledger.behind earlier stage)).world.entries =
          earlier ++ emitted.map (Entry.mk stage) := by
    intro after emitted grown
    rw [Progress.map, Ledger.behind, grown]
    rfl
  have reached := shadows start
  rw [start_eq] at reached
  rw [reached]
  obtain ⟨emitted, grown, outcome⟩ := emits start
  rcases result : step start with ⟨_ | value, after⟩ <;> rw [result] at grown outcome
  · exact ⟨emitted, written after emitted grown, outcome⟩
  · exact ⟨emitted, written after emitted grown, outcome⟩

section Adjusting

variable [Scalar α] {rig : Rig σ η α} {config : Config α} {stream : η}

theorem emits_adjustGain :
    Emits (adjustGain (Journal.rig rig) config stream)
      (fun gains emitted => ∃ burst, emitted = adjustment config burst gains ∧
        (∃ block, Captures stream config.samplesPerCapture burst block) ∧
        ∀ channel, gains.get channel =
          config.adjustedGain (config.levelOf (burst.filterMap (Event.brought? channel))))
      fun _ => True := by
  unfold adjustGain
  refine (emits_issue _).bind (fun _ _ => trivial) fun _ starting started => ?_
  refine (emits_capture config stream).bind (fun _ _ => trivial) fun block burst captures => ?_
  refine (emits_issue _).bind (fun _ _ => trivial) fun _ setting set => emits_pure _ ?_
  refine ⟨burst, by rw [started, set, List.append_nil, adjustment, List.append_assoc],
    ⟨block, captures⟩, fun channel => ?_⟩
  rw [PerChannel.get_map, captures.get_blockLevels]

/-- A gain adjustment behind entries that are apart from one. -/
theorem ensures_adjustGain :
    Ensures (At .rxGainAdjust fun ledger => ∀ entry ∈ ledger.entries, entry.Apart)
      (adjustGain (Ledger.rig rig .rxGainAdjust) config stream)
      (fun gains => At .rxGainAdjust fun ledger =>
        ∃ burst, Adjusts config stream burst gains ledger.entries)
      fun _ => At .rxGainAdjust fun _ => True := by
  rintro progress ⟨stage_eq, apart⟩
  have accepts : ∀ entry, Accepts (fun _ : List (Entry η α) => True) entry := fun _ _ => id
  have stays : Stays .rxGainAdjust (fun _ : List (Entry η α) => True)
      (adjustGain (Ledger.rig rig .rxGainAdjust) config stream) := by
    refine (stays_issue fun _ _ _ => accepts _).bind fun _ => ?_
    refine (stays_capture fun _ _ => accepts _).bind fun block => ?_
    exact (stays_issue fun _ _ _ => accepts _).bind fun _ => ensures_pure _ fun _ => id
  have kept := stays progress ⟨stage_eq, trivial⟩
  have adjusted := emits_adjustGain.inLedger
    (shadows_adjustGain (Ledger.shadows_behind rig .rxGainAdjust) config stream) progress rfl
  rcases outcome : adjustGain (Ledger.rig rig .rxGainAdjust) config stream progress with
    ⟨_ | gains, after⟩ <;> rw [outcome] at kept adjusted
  · exact kept
  · obtain ⟨_, grown, burst, rfl, captures, get_gains⟩ := adjusted
    have placed := grown.trans (List.append_nil _).symm
    exact ⟨kept.1, burst, captures, get_gains, progress.world.entries, [], placed, apart,
      List.forall_mem_nil _⟩

end Adjusting

/-- Entries of a kind stay so when entries are added that are apart from a gain adjustment. -/
def Lasting (kind : List (Entry η α) → Prop) : Prop :=
  ∀ entry : Entry η α, entry.Apart → Accepts kind entry

namespace Lasting

variable {rig : Rig σ η α} {config : Config α} {stream : η} {stage label : Stage}
  {kind : List (Entry η α) → Prop} (lasting : Lasting kind) (other : label ≠ .rxGainAdjust)

include lasting other

theorem issue {commands : List (Command α)}
    (silent : ∀ command ∈ commands, command.setsReceiveGain = false) :
    Stays stage kind (issue (Ledger.rig rig label) commands) :=
  stays_issue fun command member outcome => lasting _ ⟨other, fun channel =>
    command.receiveGain?_eq_none (silent command member) channel outcome⟩

theorem capture [Arithmetic α] : Stays stage kind (capture (Ledger.rig rig label) config stream) :=
  stays_capture fun _ serves => lasting _ ⟨other, serves.receiveGain?_eq_none⟩

theorem note (trial : Trial α) : Stays stage kind (note (Ledger.rig rig label) trial) :=
  stays_note (lasting _ ⟨other, fun _ => rfl⟩)

section Searches

variable [Scalar α]

theorem searchReceive : Stays stage kind (searchReceive (Ledger.rig rig label) config stream) := by
  refine stays_tryGrids (fun start point found => ?_) _
  refine (lasting.issue other (of_decide_eq_true rfl)).bind fun _ => ?_
  refine (lasting.capture other).bind fun block => ?_
  refine (lasting.note other _).bind fun _ => ?_
  exact stays_pure _

theorem searchTransmit :
    Stays stage kind (searchTransmit (Ledger.rig rig label) config stream) := by
  refine stays_tryGrids (fun start point found => ?_) _
  refine (lasting.issue other (of_decide_eq_true rfl)).bind fun _ => ?_
  refine (lasting.capture other).bind fun block => ?_
  refine (lasting.note other _).bind fun _ => ?_
  exact stays_pure _

end Searches

end Lasting

theorem setsReceiveGain_of_mem_writeCorrections {kind : CorrectionKind} {direction : Direction}
    {values : PerChannel (Phasor α)} :
    ∀ command ∈ writeCorrections kind direction values, command.setsReceiveGain = false := by
  cases kind <;> exact of_decide_eq_true rfl

private theorem lasting_apart : Lasting fun entries : List (Entry η α) =>
    ∀ entry ∈ entries, entry.Apart :=
  fun _ apart _ earlier => List.forall_mem_append.mpr
    ⟨earlier, List.forall_mem_singleton.mpr apart⟩

section Passing

variable [Scalar α] {rig : Rig σ η α} {config : Config α} {stream : η}

private theorem lasting_adjusts (gains : PerChannel α) : Lasting fun entries : List (Entry η α) =>
    ∃ burst, Adjusts config stream burst gains entries :=
  fun _ apart _ ⟨burst, adjusts⟩ => ⟨burst, adjusts.concat apart⟩

/-- The entries hold a gain adjustment if the calibration got past it. -/
private def Passed (config : Config α) (stream : η) (progress : Progress (Ledger σ η α)) : Prop :=
  .rxGainAdjust < progress.stage →
    ∃ gains burst, Adjusts config stream burst gains progress.world.entries

/-- A step that fails before the end of the adjustment has not got past it. -/
private theorem passed_early {stage : Stage} (before : ¬.rxGainAdjust < stage)
    {start : Progress (Ledger σ η α) → Prop} {step : Step (Ledger σ η α) β}
    {success : β → Progress (Ledger σ η α) → Prop} {known : Ledger σ η α → Prop}
    (ensures : Ensures start step success fun _ => At stage known) :
    Ensures start step success fun _ => Passed config stream :=
  ensures.weaken (fun _ => id) (fun _ _ => id)
    fun _ _ failed passed => absurd (failed.1 ▸ passed) before

/-- A later step leaves the adjustment among the entries, also when it fails. -/
private theorem passed_late {stage : Stage} {gains : PerChannel α} {step : Step (Ledger σ η α) β}
    (stays : Stays stage (fun entries => ∃ burst, Adjusts config stream burst gains entries) step) :
    Ensures (At stage fun ledger => ∃ burst, Adjusts config stream burst gains ledger.entries) step
      (fun _ => At stage fun ledger => ∃ burst, Adjusts config stream burst gains ledger.entries)
      fun _ => Passed config stream :=
  stays.weaken (fun _ => id) (fun _ _ => id) fun _ _ failed _ => ⟨gains, failed.2⟩

private theorem passed_advance {stage next : Stage} (follows : stage.next? = some next)
    {known : Ledger σ η α → Prop} :
    Ensures (At stage known) advance (fun _ => At next known) fun _ => Passed config stream := by
  rintro progress ⟨rfl, holds⟩
  have stage_eq : progress.stage.next?.getD progress.stage = next := by
    rw [follows, Option.getD_some]
  exact ⟨stage_eq, holds⟩

theorem ensures_entered (frequency : α) :
    Ensures (fun progress => progress.world.entries = [])
      (calibrateInStages (Ledger.rig rig) config frequency stream)
      (fun outcome => At .done fun ledger =>
        ∃ burst, Adjusts config stream burst outcome.rxPgaGain ledger.entries)
      fun _ => Passed config stream := by
  have begins : Ensures (fun progress => progress.world.entries = [])
      (clock (Ledger.rig rig .initial)) (fun _ progress => progress.world.entries = [])
      fun _ => Passed config stream := fun _ => id
  have enters : Ensures (fun progress => progress.world.entries = []) (enter .initial)
      (fun _ => At .initial fun ledger : Ledger σ η α => ∀ entry ∈ ledger.entries, entry.Apart)
      fun _ => Passed config stream :=
    fun progress empty => ⟨rfl, fun entry member => by simp [empty] at member⟩
  unfold calibrateInStages
  refine begins.bind fun started => enters.bind fun _ => ?_
  refine (passed_early (by decide) (lasting_apart.issue (by decide) (of_decide_eq_true rfl))).bind
    fun _ => (passed_advance rfl).bind fun _ => ?_
  refine (passed_early (by decide) ensures_adjustGain).bind fun rxPgaGain =>
    (passed_advance rfl).bind fun _ => ?_
  have lasting : Lasting fun entries : List (Entry η α) =>
      ∃ burst, Adjusts config stream burst rxPgaGain entries := lasting_adjusts rxPgaGain
  refine (passed_late (lasting.capture (by decide))).bind fun rxInitial => ?_
  refine (passed_late (lasting.searchReceive (by decide))).bind fun rxIq => ?_
  refine (passed_late (lasting.issue (by decide) setsReceiveGain_of_mem_writeCorrections)).bind
    fun _ => ?_
  refine (passed_late (lasting.capture (by decide))).bind fun rxFinal =>
    (passed_advance rfl).bind fun _ => ?_
  refine (passed_late (lasting.issue (by decide) (of_decide_eq_true rfl))).bind fun _ => ?_
  refine (passed_late (lasting.capture (by decide))).bind fun txInitial => ?_
  refine (passed_late (lasting.searchTransmit (by decide))).bind fun tx => ?_
  refine (passed_late (lasting.issue (by decide) setsReceiveGain_of_mem_writeCorrections)).bind
    fun _ => ?_
  refine (passed_late (lasting.issue (by decide) setsReceiveGain_of_mem_writeCorrections)).bind
    fun _ => ?_
  refine (passed_late (lasting.capture (by decide))).bind fun txFinal =>
    (passed_advance rfl).bind fun _ => ?_
  refine (passed_late stays_countCandidates).bind fun candidates => ?_
  exact (passed_late stays_clock).bind fun finished => ensures_pure _ fun _ => id

end Passing

section Runs

variable [Scalar α] {rig : Rig σ η α} {config : Config α} {frequency : α} {stream : η}
  {progress after : Progress σ}

/-- A calibration that gives an outcome has come to its end. -/
theorem stage_of_outcome {outcome : Outcome α}
    (calibrates : calibrate rig config frequency stream progress = (.ok outcome, after)) :
    after.stage = .done := by
  rw [calibrate_eq_entered] at calibrates
  rcases ending : entered rig config frequency stream progress with ⟨_ | _, ended⟩ <;>
    rw [ending] at calibrates <;> cases calibrates
  unfold entered at ending
  exact ((ensures_entered frequency).of_ok rfl ending).1

/-- A calibration that gets past the gain adjustment has made one. -/
theorem exists_adjusts {result : Except (Halt CalibrationError) (Outcome α)}
    (calibrates : calibrate rig config frequency stream progress = (result, after))
    (passed : .rxGainAdjust < after.stage) :
    ∃ gains burst, Adjusts config stream burst gains
        (entries rig config frequency stream progress) ∧
      ∀ outcome, result = .ok outcome → outcome.rxPgaGain = gains := by
  rw [calibrate_eq_entered] at calibrates
  unfold entries
  rcases ending : entered rig config frequency stream progress with ⟨_ | outcome, ended⟩ <;>
    rw [ending] at calibrates <;> cases calibrates <;> unfold entered at ending
  · obtain ⟨gains, burst, adjusts⟩ :=
      (ensures_entered frequency).of_error rfl ending passed
    refine ⟨gains, burst, adjusts, fun reported same => ?_⟩
    cases same
  · obtain ⟨-, burst, adjusts⟩ := (ensures_entered frequency).of_ok rfl ending
    refine ⟨outcome.rxPgaGain, burst, adjusts, fun reported same => ?_⟩
    cases same
    rfl

/-- **The receive gain.** Whatever the device delivers, a calibration that gets past the gain
adjustment has set the gain of each channel twice. In between it took one capture, and the second
gain, the one that it reports, follows from what the capture brought to the channel. It is within
its bound and does not rise with the level of the channel. -/
theorem receiveGain_adjusted [OrderedSums α] {result : Except (Halt CalibrationError) (Outcome α)}
    (calibrates : calibrate rig config frequency stream progress = (result, after))
    (passed : .rxGainAdjust < after.stage) (bounded : isNumber config.maxRxPgaGain) :
    ∃ gains burst, Adjusts config stream burst gains
        (entries rig config frequency stream progress) ∧
      (∀ outcome, result = .ok outcome → outcome.rxPgaGain = gains) ∧
      (∀ channel, (entries rig config frequency stream progress).filterMap
            (fun entry => entry.event.receiveGain? channel) =
          [(config.rxPgaGain, .ok ()), (gains.get channel, .ok ())] ∧
        gains.get channel ≤ config.maxRxPgaGain) ∧
      ∀ low high, low ≤ high → config.adjustedGain high ≤ config.adjustedGain low := by
  obtain ⟨gains, burst, adjusts, reported⟩ := exists_adjusts calibrates passed
  refine ⟨gains, burst, adjusts, reported, fun channel => ⟨adjusts.receiveGains channel, ?_⟩,
    fun low high below => config.adjustedGain_antitone bounded below⟩
  rw [adjusts.get_gains]
  exact config.adjustedGain_le bounded _

end Runs

end Calibration

namespace Overdriven

/-- A transceiver whose first channel is overdriven and whose second one brings no numbers. -/
def transceiver : Transceiver Unit Unit Float where
  description _ := "Overdriven"
  command _ := Action.pure ()
  openStream _ := Action.pure ()
  activate _ _ := Action.pure ()
  read _ _ _ := Action.pure ⟨2,
    [.replicate 2 ⟨Binary64.infinity, Binary64.infinity⟩,
      .replicate 2 ⟨Binary64.notNumber, Binary64.notNumber⟩]⟩
  closeStream _ := Action.pure ()

/-- The transceiver beside a clock that a look does not move on. -/
def rig : Rig (Hosted Unit) Unit Float := .ofDevice transceiver (fun _ => false) 0

/-- A run before its first stage, at the start of the clock. -/
def start : Progress (Hosted Unit) := .start (.start ())

/-- A capture is one read. -/
def config : Config Float :=
  { Config.standard with
    samplesPerCapture := 2
    binsPerFft := 2 }

theorem fits : config.Fits 2 where
  grids := by decide
  candidates := by decide
  samples := by decide
  timeout := by decide
  horizon := by decide

theorem reliable : rig.Reliable (fun world => world.clock = 0 ∧ world.stopRequested = false) 2 where
  command _ _ ready := ready
  activate _ _ _ ready := ready
  read _ _ _ _ within _ ready := ⟨within, ready⟩
  now _ ready := ⟨ready.1, ready⟩
  stopRequested world ready := by
    change (world.stopRequested || false) = false
    rw [ready.2, Bool.or_self]
  note _ _ := id

end Overdriven

open Overdriven in
/-- A calibration of the overdriven transceiver keeps to the bound on both channels. -/
theorem Calibration.receiveGain_adjusted_overdriven : ∃ outcome after,
    calibrate rig config Config.parkingFrequency () start = (.ok outcome, after) ∧
      .rxGainAdjust < after.stage ∧ isNumber config.maxRxPgaGain ∧
      ∀ channel, outcome.rxPgaGain.get channel ≤ config.maxRxPgaGain := by
  have ready : start.world.clock = 0 ∧ start.world.stopRequested = false := ⟨rfl, rfl⟩
  obtain ⟨outcome, after, calibrates, -⟩ :=
    exists_outcome reliable fits Config.parkingFrequency () ready
  have passed : .rxGainAdjust < after.stage := by
    rw [stage_of_outcome calibrates]
    decide
  have bounded : isNumber config.maxRxPgaGain := by decide
  obtain ⟨gains, burst, -, reported, adjusted, -⟩ :=
    receiveGain_adjusted calibrates passed bounded
  refine ⟨outcome, after, calibrates, passed, bounded, fun channel => ?_⟩
  rw [reported outcome rfl]
  exact (adjusted channel).2

end LoopbackCalibration
