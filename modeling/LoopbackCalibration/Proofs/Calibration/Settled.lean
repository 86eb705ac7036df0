import LoopbackCalibration.Proofs.Calibration.Conduct
import LoopbackCalibration.Proofs.Calibration.Work

/-! # What a calibration leaves set

Every command has a target, the thing that it sets. A rig *retains* what is set on it when a
command that was carried out holds until another one with the same target is given. On such a
rig a calibration that gives an outcome leaves everything in force that the outcome reports
(`Calibration.settles_calibrate`), although its searches overwrite the corrections with one
trial after the other.
-/

namespace LoopbackCalibration

open Action

variable {σ η α β γ : Type}

/-- What is set on one path. -/
inductive Quantity where
  | frequency (stage : FrequencyStage)
  | gain (stage : GainStage)
  | antenna
  | dcOffset
  | iqBalance
  | dcOffsetMode
  | sampleRate
  deriving DecidableEq

/-- What a command sets. -/
inductive Target where
  | path (direction : Direction) (channel : Channel) (quantity : Quantity)
  | masterClockRate
  | setting (key : String)
  deriving DecidableEq

/-- What a command sets. -/
def Command.target : Command α → Target
  | .frequency direction channel stage _ => .path direction channel (.frequency stage)
  | .gain direction channel stage _ => .path direction channel (.gain stage)
  | .antenna direction channel _ => .path direction channel .antenna
  | .dcOffset direction channel _ => .path direction channel .dcOffset
  | .iqBalance direction channel _ => .path direction channel .iqBalance
  | .dcOffsetMode direction channel _ => .path direction channel .dcOffsetMode
  | .masterClockRate _ => .masterClockRate
  | .sampleRate direction channel _ => .path direction channel .sampleRate
  | .setting key _ => .setting key

/-- A command that is carried out holds from then on, until one with the same target is given.
Captures, looks at the clock and notes of trials change nothing that is set. -/
structure Rig.Retains (rig : Rig σ η α) (holds : Command α → σ → Prop) : Prop where
  sets : ∀ command,
    Ensures (fun _ => True) (rig.command command) (fun _ => holds command) fun _ _ => True
  keeps : ∀ command kept, command.target ≠ kept.target →
    Ensures (holds kept) (rig.command command) (fun _ => holds kept) fun _ _ => True
  openStream : ∀ channels kept,
    Ensures (holds kept) (rig.openStream channels) (fun _ => holds kept) fun _ _ => True
  activate : ∀ stream count kept,
    Ensures (holds kept) (rig.activate stream count) (fun _ => holds kept) fun _ _ => True
  read : ∀ stream rooms wait kept,
    Ensures (holds kept) (rig.read stream rooms wait) (fun _ => holds kept) fun _ => holds kept
  closeStream : ∀ stream kept,
    Ensures (holds kept) (rig.closeStream stream) (fun _ => holds kept) fun _ _ => True
  now : ∀ world kept, holds kept world → holds kept (rig.now world).2
  note : ∀ trial world kept, holds kept world → holds kept (rig.note trial world)

/-- All commands of a list hold. -/
def Holding (holds : Command α → σ → Prop) (held : List (Command α)) (world : σ) : Prop :=
  ∀ command ∈ held, holds command world

theorem Holding.of_subset {holds : Command α → σ → Prop} {fewer more : List (Command α)}
    {world : σ} (holding : Holding holds more world) (subset : fewer ⊆ more) :
    Holding holds fewer world :=
  fun command member => holding command (subset member)

namespace Rig.Retains

variable {rig : Rig σ η α} {holds : Command α → σ → Prop} (retains : rig.Retains holds)

include retains

/-- A stage beside the world makes no difference. -/
theorem progress :
    (Progress.rig rig).Retains fun command progress => holds command progress.world where
  sets command := Progress.ensures_onWorld (retains.sets command)
  keeps command kept apart := Progress.ensures_onWorld (retains.keeps command kept apart)
  openStream channels kept := Progress.ensures_onWorld (retains.openStream channels kept)
  activate stream count kept := Progress.ensures_onWorld (retains.activate stream count kept)
  read stream rooms wait kept := Progress.ensures_onWorld (retains.read stream rooms wait kept)
  closeStream stream kept := Progress.ensures_onWorld (retains.closeStream stream kept)
  now progress kept holding := retains.now progress.world kept holding
  note trial progress kept holding := retains.note trial progress.world kept holding

/-- What a list of commands has set, a command with another target leaves in force. -/
theorem keeps_all {held : List (Command α)} {command : Command α}
    (apart : ∀ kept ∈ held, command.target ≠ kept.target) :
    Ensures (Holding holds held) (rig.command command) (fun _ => Holding holds held)
      fun _ _ => True :=
  (Ensures.forall_mem fun kept member => retains.keeps command kept (apart kept member)).weaken
    (fun _ => id) (fun _ _ => id) fun _ _ _ => trivial

/-- Behind commands with other targets, a command that is carried out is in force as well. -/
theorem sets_behind {held : List (Command α)} {command : Command α}
    (apart : ∀ kept ∈ held, command.target ≠ kept.target) :
    Ensures (Holding holds held) (rig.command command)
      (fun _ => Holding holds (held ++ [command])) fun _ _ => True := by
  intro world holding
  have kept := retains.keeps_all apart world holding
  have set := retains.sets command world trivial
  rcases outcome : rig.command command world with ⟨_ | _, after⟩ <;> rw [outcome] at kept set
  · exact trivial
  · intro other member
    rcases List.mem_append.mp member with earlier | last
    · exact kept other earlier
    · cases List.mem_singleton.mp last
      exact set

/-- A capture leaves in force what was set before. -/
theorem serves (stream : η) (held : List (Command α)) :
    rig.Serves stream (Holding holds held) fun _ _ => True where
  activate count :=
    (Ensures.forall_mem fun kept _ => retains.activate stream count kept).weaken
      (fun _ => id) (fun _ _ => id) fun _ _ _ => trivial
  read rooms wait :=
    (Ensures.forall_mem fun kept _ => retains.read stream rooms wait kept).weaken
      (fun _ => id) (fun _ _ => id) fun _ _ holding => by
        split_ifs
        · exact holding
        · exact fun _ => trivial
  now world holding kept member := retains.now world kept (holding kept member)

end Rig.Retains

namespace Calibration

/-- All commands of a list hold beside any stage. -/
abbrev Held (holds : Command α → σ → Prop) (held : List (Command α)) (progress : Progress σ) :
    Prop :=
  Holding holds held progress.world

/-- Started while some commands hold, the step ends, if it gives a value, while the commands
that belong to the value hold. -/
abbrev Settles (holds : Command α → σ → Prop) (before : List (Command α)) (step : Step σ β)
    (after : β → List (Command α)) : Prop :=
  Ensures (Held holds before) step (fun value => Held holds (after value)) fun _ _ => True

variable {rig : Rig σ η α} {holds : Command α → σ → Prop} {held : List (Command α)}
  {config : Config α} {stream : η}

/-- What is no longer needed is dropped. -/
theorem ensures_of_subset {fewer : List (Command α)} {step : Step σ β}
    {success : β → Progress σ → Prop} {failure : Halt CalibrationError → Progress σ → Prop}
    (ensures : Ensures (Held holds fewer) step success failure) (subset : fewer ⊆ held) :
    Ensures (Held holds held) step success failure :=
  ensures.weaken (fun _ holding => holding.of_subset subset) (fun _ _ => id) fun _ _ => id

theorem settles_pure (value : β) (after : β → List (Command α)) :
    Settles holds (after value) (Action.pure value : Step σ β) after :=
  ensures_pure value fun _ => id

section Steps

variable (retains : rig.Retains holds)

include retains

/-- Commands with other targets leave in force what was set before them. -/
theorem settles_issueDuring_apart (stage : Stage) {commands : List (Command α)}
    (apart : ∀ command ∈ commands, ∀ kept ∈ held, command.target ≠ kept.target) :
    Settles holds held (issueDuring rig stage commands) fun _ => held :=
  ensures_forEach fun command member =>
    Ensures.mapError (retains.progress.keeps_all (apart command member))

/-- Commands with targets of their own are all in force in the end, and so is what was set
before them. -/
theorem settles_issueDuring (stage : Stage) {commands : List (Command α)}
    (distinct : commands.Pairwise fun first second => second.target ≠ first.target)
    (apart : ∀ command ∈ commands, ∀ kept ∈ held, command.target ≠ kept.target) :
    Settles holds held (issueDuring rig stage commands) fun _ => held ++ commands := by
  induction commands generalizing held with
  | nil =>
      rw [List.append_nil]
      exact settles_pure () fun _ => held
  | cons command rest ih =>
      obtain ⟨first, distinct⟩ := List.pairwise_cons.mp distinct
      have sets : Settles holds held
          (Action.mapError (fun cause => .error (.configuration stage cause))
            ((Progress.rig rig).command command)) fun _ => held ++ [command] :=
        Ensures.mapError (retains.progress.sets_behind (apart command List.mem_cons_self))
      refine sets.bind fun _ => ?_
      rw [show held ++ command :: rest = held ++ [command] ++ rest by simp]
      apply ih distinct
      intro later member kept holding
      rcases List.mem_append.mp holding with earlier | last
      · exact apart later (List.mem_cons_of_mem _ member) kept earlier
      · cases List.mem_singleton.mp last
        exact first later member

theorem settles_issue {commands : List (Command α)}
    (distinct : commands.Pairwise fun first second => second.target ≠ first.target)
    (apart : ∀ command ∈ commands, ∀ kept ∈ held, command.target ≠ kept.target) :
    Settles holds held (issue rig commands) fun _ => held ++ commands :=
  fun progress => settles_issueDuring retains progress.stage distinct apart progress

theorem settles_clock : Settles holds held (clock rig) fun _ => held :=
  fun progress holding kept member => retains.now progress.world kept (holding kept member)

theorem settles_note (trial : Trial α) : Settles holds held (note rig trial) fun _ => held :=
  fun progress holding kept member => retains.note trial progress.world kept (holding kept member)

theorem settles_capture [Arithmetic α] :
    Settles holds held (capture rig config stream) fun _ => held := by
  intro progress holding
  have acquires := (retains.progress.serves stream held).acquire config.samplesPerCapture
    config.acquisitionOptions
  exact Ensures.mapError (acquires.weaken (fun _ => id) (fun _ _ => id) fun _ _ _ => trivial)
    progress holding

end Steps

theorem settles_enter (stage : Stage) :
    Settles holds held (enter stage : Step σ Unit) fun _ => held :=
  fun _ => id

theorem settles_advance : Settles holds held (advance : Step σ Unit) fun _ => held :=
  fun _ => id

theorem settles_countCandidates :
    Settles holds held (countCandidates config : Step σ Nat) fun _ => held := by
  unfold countCandidates
  split_ifs
  · exact settles_pure _ fun _ => held
  · exact ensures_fail _ fun _ _ => trivial

end Calibration

namespace Config

variable [Arithmetic α] (config : Config α)

/-- What the tuning sets and no later command of a calibration sets again. -/
def tuned (frequency : α) : List (Command α) :=
  [.frequency .rx .a .rf frequency, .frequency .tx .a .rf (frequency + config.txDelta)] ++
  Channel.all.map fun channel => .frequency .rx channel .baseband 0

/-- What is set when the receive search begins. -/
def adjusted (frequency : α) (gains : PerChannel α) : List (Command α) :=
  config.tuned frequency ++ receiveGain gains

/-- What is set when the transmit search begins. -/
def received (frequency : α) (gains : PerChannel α) (rxIq : PerChannel (Phasor α)) :
    List (Command α) :=
  config.adjusted frequency gains ++ writeCorrections .iqBalance .rx rxIq ++ config.separation

/-- What an outcome reports of a run at a frequency. -/
def reported (frequency : α) (outcome : Outcome α) : List (Command α) :=
  config.received frequency outcome.rxPgaGain outcome.rxIq.correction ++
  writeCorrections .iqBalance .tx outcome.txIq.correction ++
  writeCorrections .dcOffset .tx outcome.txDc.correction

theorem tuned_subset (frequency : α) : config.tuned frequency ⊆ config.tuning frequency := by
  intro command member
  simp [tuned, tuning, Channel.all] at member ⊢
  grind

end Config

namespace Calibration

variable {rig : Rig σ η α} {holds : Command α → σ → Prop} {held : List (Command α)}
  {config : Config α} {stream : η} [Scalar α]

/-- A search keeps in force what each of its trials keeps in force. -/
private theorem settles_tryGrids {attempt : β → TestPoint α → β → Step σ β} {grids : List Grid}
    (each : ∀ start point found,
      Settles holds held (attempt start point found) fun _ => held) (found : β) :
    Settles holds held (Descent.tryGrids attempt grids found) fun _ => held :=
  Descent.ensures_tryGrids each (fun _ _ _ _ _ _ => trivial) found

/-- Receive offsets, which no command of a calibration sets, beside what else is in force. -/
def beside (offsets : PerChannel (Phasor α)) (held : List (Command α)) : List (Command α) :=
  writeCorrections .dcOffset .rx offsets ++ held

section Searches

variable (retains : rig.Retains holds) (offsets : PerChannel (Phasor α)) (frequency : α)
  (gains : PerChannel α)

include retains

private theorem settles_adjustGain :
    Settles holds (beside offsets (config.tuned frequency)) (adjustGain rig config stream)
      fun gains => beside offsets (config.adjusted frequency gains) := by
  unfold adjustGain
  refine (settles_issue retains (of_decide_eq_true rfl) (of_decide_eq_true rfl)).bind fun _ => ?_
  refine (settles_capture retains).bind fun block => ?_
  refine ensures_of_subset ?_ (List.subset_append_left _ _)
  refine (settles_issue retains (of_decide_eq_true rfl) (of_decide_eq_true rfl)).bind fun _ => ?_
  rw [beside, List.append_assoc]
  exact settles_pure _ fun gains => beside offsets (config.adjusted frequency gains)

private theorem settles_searchReceive :
    Settles holds (beside offsets (config.adjusted frequency gains))
      (searchReceive rig config stream)
      fun _ => beside offsets (config.adjusted frequency gains) := by
  refine settles_tryGrids (fun start point found => ?_) _
  unfold tryReceive
  refine (settles_issue retains (of_decide_eq_true rfl) (of_decide_eq_true rfl)).bind fun _ => ?_
  refine ensures_of_subset ?_ (List.subset_append_left _ _)
  refine (settles_capture retains).bind fun block => ?_
  refine (settles_note retains _).bind fun _ => ?_
  exact settles_pure _ fun _ => beside offsets (config.adjusted frequency gains)

private theorem settles_searchTransmit (rxIq : PerChannel (Phasor α)) :
    Settles holds (beside offsets (config.received frequency gains rxIq))
      (searchTransmit rig config stream)
      fun _ => beside offsets (config.received frequency gains rxIq) := by
  refine settles_tryGrids (fun start point found => ?_) _
  unfold tryTransmit
  refine (settles_issue retains (of_decide_eq_true rfl) (of_decide_eq_true rfl)).bind fun _ => ?_
  refine ensures_of_subset ?_ (List.subset_append_left _ _)
  refine (settles_capture retains).bind fun block => ?_
  refine (settles_note retains _).bind fun _ => ?_
  exact settles_pure _ fun _ => beside offsets (config.received frequency gains rxIq)

end Searches

/-- **What a calibration leaves set.** A calibration that gives an outcome ends with everything
in force that the outcome reports, and with the receive offsets that were in force before. -/
theorem settles_calibrate (retains : rig.Retains holds) (config : Config α) (frequency : α)
    (stream : η) (offsets : PerChannel (Phasor α)) :
    Settles holds (beside offsets []) (calibrate rig config frequency stream)
      fun outcome => beside offsets (config.reported frequency outcome) := by
  unfold calibrate
  refine (settles_clock retains).bind fun started => ?_
  refine (settles_enter .initial).bind fun _ => ?_
  refine (settles_issue retains (of_decide_eq_true rfl) (of_decide_eq_true rfl)).bind fun _ => ?_
  refine settles_advance.bind fun _ => ?_
  -- the gains and corrections that the tuning sets are overwritten later
  have tuned : beside offsets (config.tuned frequency) ⊆
      beside offsets [] ++ config.tuning frequency := by
    rw [beside, beside, List.append_nil]
    exact List.append_subset.mpr ⟨List.subset_append_left _ _,
      List.Subset.trans (config.tuned_subset frequency) (List.subset_append_right _ _)⟩
  refine ensures_of_subset ?_ tuned
  refine (settles_adjustGain retains offsets frequency).bind fun gains => ?_
  refine settles_advance.bind fun _ => ?_
  refine (settles_capture retains).bind fun rxInitial => ?_
  refine (kind_searchReceive.known_and
    (settles_searchReceive retains offsets frequency gains)).bind fun rxIq => ?_
  refine Ensures.of_and fun kind => ?_
  rw [SearchState.commands, kind]
  refine (settles_issue retains (of_decide_eq_true rfl) (of_decide_eq_true rfl)).bind fun _ => ?_
  refine (settles_capture retains).bind fun rxFinal => ?_
  refine settles_advance.bind fun _ => ?_
  refine (settles_issue retains (of_decide_eq_true rfl) (of_decide_eq_true rfl)).bind fun _ => ?_
  refine (settles_capture retains).bind fun txInitial => ?_
  have received : beside offsets (config.adjusted frequency gains) ++
      writeCorrections .iqBalance .rx rxIq.corrections ++ config.separation =
        beside offsets (config.received frequency gains rxIq.corrections) := by
    simp only [beside, Config.received, List.append_assoc]
  rw [received]
  refine (kind_searchTransmit.known_and
    (settles_searchTransmit retains offsets frequency gains _)).bind fun tx => ?_
  refine Ensures.of_and fun kinds => ?_
  rw [SearchState.commands, SearchState.commands, kinds.1, kinds.2]
  refine (settles_issue retains (of_decide_eq_true rfl) (of_decide_eq_true rfl)).bind fun _ => ?_
  refine (settles_issue retains (of_decide_eq_true rfl) (of_decide_eq_true rfl)).bind fun _ => ?_
  refine (settles_capture retains).bind fun txFinal => ?_
  refine settles_advance.bind fun _ => ?_
  refine settles_countCandidates.bind fun candidates => ?_
  refine (settles_clock retains).bind fun finished => ?_
  refine ensures_pure _ fun progress holding => ?_
  change Holding holds (beside offsets (config.received frequency gains rxIq.corrections ++
    writeCorrections .iqBalance .tx tx.iq.corrections ++
    writeCorrections .dcOffset .tx tx.dc.corrections)) progress.world
  simpa only [beside, List.append_assoc] using holding

/-- **What a run leaves set.** A run that gives an outcome ends with everything in force that
the outcome reports, and with the receive offsets that were in force before. -/
theorem settles_run (retains : rig.Retains holds) (config : Config α) (frequency : α)
    (offsets : PerChannel (Phasor α)) :
    Settles holds (beside offsets []) (run rig config frequency)
      fun outcome => beside offsets (config.reported frequency outcome) := by
  unfold run
  refine (settles_issueDuring_apart retains .initial (of_decide_eq_true rfl)).bind fun _ => ?_
  have opens : Ensures (Held holds (beside offsets []))
      ((Progress.rig rig).openStream Channel.all) (fun _ => Held holds (beside offsets []))
      fun _ _ => True :=
    (Ensures.forall_mem fun kept _ => retains.progress.openStream Channel.all kept).weaken
      (fun _ => id) (fun _ _ => id) fun _ _ _ => trivial
  have closes : ∀ (stream : η) (held : List (Command α)), Ensures (Held holds held)
      ((Progress.rig rig).closeStream stream) (fun _ => Held holds held) fun _ _ => True :=
    fun stream held =>
      (Ensures.forall_mem fun kept _ => retains.progress.closeStream stream kept).weaken
        (fun _ => id) (fun _ _ => id) fun _ _ _ => trivial
  refine ensures_withStream (opens.weaken (fun _ => id) (fun _ _ => id) fun _ _ _ => trivial)
    (fun stream => settles_calibrate retains config frequency stream offsets)
    (fun stream outcome => ?_) fun stream halt => ?_
  · exact (closes stream _).weaken (fun _ => id) (fun _ _ => id) fun _ _ _ => trivial
  · exact fun progress _ => by split <;> trivial

end Calibration

end LoopbackCalibration
