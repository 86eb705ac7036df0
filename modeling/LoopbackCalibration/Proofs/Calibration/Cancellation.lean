import LoopbackCalibration.Proofs.Calibration.CutShort
import LoopbackCalibration.Proofs.Calibration.Range
import LoopbackCalibration.Proofs.Calibration.Yield
import LoopbackCalibration.Proofs.Session.Closing

/-! # Cancellation

A run may be cancelled at any moment: before it, or while any of its calls is under way. It looks
at the stop request only before each read of a capture. So it makes no read any more, and unless
it has taken its last capture already it ends where it looks next and reports that it was
cancelled, if no call fails and no deadline elapses before
(`Calibration.cancellation_honoured`).
-/

namespace LoopbackCalibration

open Action

variable {σ η α ε β : Type}

/-- A device's world with the number of calls that were made of it. -/
structure Counted (σ : Type) where
  world : σ
  made : Nat

namespace Counted

/-- A world before the first call. -/
def start (world : σ) : Counted σ := ⟨world, 0⟩

/-- A call, which is counted also when it fails. -/
def count (action : Action σ ε β) : Action (Counted σ) ε β :=
  fun counted =>
    match action counted.world with
    | (result, world) => (result, ⟨world, counted.made + 1⟩)

end Counted

/-- The stage and the world of a run, no call counted yet. -/
def Progress.counted (progress : Progress σ) : Progress (Counted σ) :=
  ⟨progress.stage, .start progress.world⟩

/-- A rig that is told to stop during one of its calls, counted from one, or before all of them
at zero. Looks at the clock do not count, but trials do. -/
def Rig.cancelledAt (rig : Rig σ η α) (moment : Nat) : Rig (Counted σ) η α where
  description counted := rig.description counted.world
  command command := Counted.count (rig.command command)
  openStream channels := Counted.count (rig.openStream channels)
  activate stream count := Counted.count (rig.activate stream count)
  read stream rooms wait := Counted.count (rig.read stream rooms wait)
  closeStream stream := Counted.count (rig.closeStream stream)
  now counted :=
    match rig.now counted.world with
    | (reading, world) => (reading, { counted with world })
  stopRequested counted := moment ≤ counted.made
  note trial counted := ⟨rig.note trial counted.world, counted.made + 1⟩
  patience stream room instant counted := rig.patience stream room instant counted.world
  patience_lt stream room instant wait counted :=
    rig.patience_lt stream room instant wait counted.world

/-- A count changes nothing when stop requests are ignored. -/
theorem Counted.shadows_rig (rig : Rig σ η α) (moment : Nat) :
    (rig.cancelledAt moment).unstopped.Shadows Counted.world rig.unstopped where
  command _ _ := rfl
  openStream _ _ := rfl
  activate _ _ _ := rfl
  read _ _ _ _ := rfl
  closeStream _ _ := rfl
  now _ := rfl
  stopRequested _ := rfl
  note _ _ := rfl

namespace Calibration

/-- Between two captures: so many are complete, and from the moment on nothing was read and the
stop request was not looked at. -/
structure Resting (requested moment taken : Nat) (calls : List (Entry η α)) : Prop where
  unread : Unread moment calls
  unchecked : Unchecked requested moment calls
  idle : moment ≤ calls.length → ¬Checks requested calls
  complete : (Yield.ofEntries requested calls).complete = taken

/-- In a capture, which holds so many samples per channel. -/
structure Capturing (requested moment taken : Nat) (stage : Stage) (held : Nat)
    (calls : List (Entry η α)) : Prop where
  unread : Unread moment calls
  unchecked : Unchecked requested moment calls
  last : ∃ last ∈ calls.getLast?, last.stage = stage ∧ last.event.Bursts
  held_eq : (Yield.ofEntries requested calls).held = held
  complete : (Yield.ofEntries requested calls).complete =
    if held < requested then taken else taken + 1

/-- What a run that is cancelled at a moment reports, and after which calls: it was cancelled, when
it first looks at the stop request; or a call failed before it looks; or a deadline elapsed before
the moment. -/
inductive Interrupted (config : Config α) (moment : Nat) :
    List (Entry η α) → CalibrationError → Prop
  | cancelled {calls : List (Entry η α)} {last : Entry η α}
      (triggered : moment ≤ calls.length)
      (checks : Checks config.samplesPerCapture calls)
      (first : Unchecked config.samplesPerCapture moment calls)
      (ends : calls.getLast? = some last) :
      Interrupted config moment calls (.acquisition last.stage
        (.cancelled (Yield.ofEntries config.samplesPerCapture calls).held))
  | failed {past : List (Entry η α)} {entry : Entry η α} {error : CalibrationError}
      (first : Unchecked config.samplesPerCapture moment (past ++ [entry]))
      (reported : entry.Reported error) : Interrupted config moment (past ++ [entry]) error
  | late {calls : List (Entry η α)} {last : Entry η α}
      (early : calls.length < moment)
      (checks : Checks config.samplesPerCapture calls) (ends : calls.getLast? = some last) :
      Interrupted config moment calls (.acquisition last.stage
        (.timeout (Yield.ofEntries config.samplesPerCapture calls).held config.samplesPerCapture
          config.acquisitionTimeout))

section Entries

variable {requested moment taken held : Nat} {stage : Stage} {calls : List (Entry η α)}
  {entry : Entry η α}

/-- A call that is not part of a capture. -/
theorem Resting.concat (resting : Resting requested moment taken calls)
    (unread : ¬entry.event.IsRead) (aside : ¬entry.event.Bursts) :
    Resting requested moment taken (calls ++ [entry]) where
  unread := resting.unread.concat fun _ => unread
  unchecked := resting.unchecked.concat resting.idle
  idle _ := by
    rintro ⟨-, last, member, bursts⟩
    rw [List.getLast?_concat] at member
    cases member
    exact aside bursts
  complete := by
    rw [Yield.ofEntries_concat, Yield.after_complete_of_not_read _ unread, resting.complete]

theorem Resting.activate (resting : Resting requested moment taken calls) (positive : 0 < requested)
    (stream : η) (count : Nat) :
    Capturing requested moment taken stage 0
      (calls ++ [⟨stage, .activated stream count (.ok ())⟩]) where
  unread := resting.unread.concat fun _ => id
  unchecked := resting.unchecked.concat resting.idle
  last := ⟨_, List.getLast?_concat, rfl, trivial⟩
  held_eq := by rw [Yield.ofEntries_concat]; rfl
  complete := by rw [Yield.ofEntries_concat, if_pos positive]; exact resting.complete

/-- A read that is made before the moment. -/
theorem Capturing.read (capturing : Capturing requested moment taken stage held calls)
    (missing : held < requested) (early : calls.length < moment) (stream : η) (rooms : List Nat)
    (wait : Duration) (delivery : Delivery α) :
    Capturing requested moment taken stage (held + min delivery.count (requested - held))
      (calls ++ [⟨stage, .read stream rooms wait (.ok delivery)⟩]) where
  unread := capturing.unread.concat fun later => absurd later (Nat.not_le.mpr early)
  unchecked := capturing.unchecked.concat fun later => absurd later (Nat.not_le.mpr early)
  last := ⟨_, List.getLast?_concat, rfl, trivial⟩
  held_eq := by
    rw [Yield.ofEntries_concat]
    simp only [Yield.after, capturing.held_eq]
  complete := by
    rw [Yield.ofEntries_concat]
    simp only [Yield.after, capturing.held_eq, capturing.complete, if_pos missing]

theorem Capturing.retry (capturing : Capturing requested moment taken stage held calls)
    (early : calls.length < moment) (stream : η) (rooms : List Nat) (wait : Duration)
    {status : StatusCode} (again : status.isTimeout) :
    Capturing requested moment taken stage held
      (calls ++ [⟨stage, .read stream rooms wait (.error status)⟩]) where
  unread := capturing.unread.concat fun later => absurd later (Nat.not_le.mpr early)
  unchecked := capturing.unchecked.concat fun later => absurd later (Nat.not_le.mpr early)
  last := ⟨_, List.getLast?_concat, rfl, again⟩
  held_eq := by rw [Yield.ofEntries_concat]; exact capturing.held_eq
  complete := by rw [Yield.ofEntries_concat]; exact capturing.complete

theorem Capturing.rest (capturing : Capturing requested moment taken stage requested calls) :
    Resting requested moment (taken + 1) calls where
  unread := capturing.unread
  unchecked := capturing.unchecked
  idle _ := fun checks => absurd (capturing.held_eq ▸ checks.1) (Nat.lt_irrefl _)
  complete := capturing.complete.trans (if_neg (Nat.lt_irrefl _))

theorem Capturing.checks (capturing : Capturing requested moment taken stage held calls)
    (missing : held < requested) : Checks requested calls := by
  obtain ⟨last, ends, -, bursts⟩ := capturing.last
  exact ⟨capturing.held_eq ▸ missing, last, ends, bursts⟩

end Entries

/-- The ledger holds all calls that were made, and they are of the given kind. -/
def Kept (kind : List (Entry η α) → Prop) (ledger : Ledger (Counted σ) η α) : Prop :=
  ledger.world.made = ledger.entries.length ∧ kind ledger.entries

/-- The last call is the given one, and those before it are of a kind. -/
def Followed (kind : List (Entry η α) → Prop) (entry : Entry η α) (calls : List (Entry η α)) :
    Prop :=
  ∃ past, calls = past ++ [entry] ∧ kind past

private theorem ensures_count {kind : List (Entry η α) → Prop} {stage : Stage}
    {event : Except ε β → Event η α} {action : Action σ ε β} :
    Ensures (Kept kind) (Ledger.record stage event (Counted.count action))
      (fun value => Kept (Followed kind ⟨stage, event (.ok value)⟩))
      fun cause => Kept (Followed kind ⟨stage, event (.error cause)⟩) := by
  rintro ledger ⟨made, holds⟩
  unfold Ledger.record Counted.count
  rcases action ledger.world.world with ⟨_ | _, world⟩ <;>
    exact ⟨by simp [made], _, rfl, holds⟩

/-- How the calls of a run that is cancelled at a moment end, if the run does not succeed. A
capture can be cancelled only if it is not the last one to be completed. -/
structure Halted [Arithmetic α] (config : Config α) (moment : Nat) (halt : Halt CalibrationError)
    (calls : List (Entry η α)) : Prop where
  unread : Unread moment calls
  interrupted : ∀ error, halt = .error error → Interrupted config moment calls error
  early : Cancels halt →
    (Yield.ofEntries config.samplesPerCapture calls).complete < 5 + config.candidates

section Captures

variable [Arithmetic α] {rig : Rig σ η α} {config : Config α} {moment taken : Nat} {stage : Stage}
  {stream : η}

private theorem Resting.halted_concat {calls : List (Entry η α)} {entry : Entry η α}
    {error : CalibrationError} (resting : Resting config.samplesPerCapture moment taken calls)
    (reported : entry.Reported error) (unread : ¬entry.event.IsRead) :
    Halted config moment (.error error) (calls ++ [entry]) where
  unread := resting.unread.concat fun _ => unread
  interrupted := by
    rintro _ ⟨⟩
    exact .failed (resting.unchecked.concat resting.idle) reported
  early := by cases reported <;> exact nofun

private theorem bursts_cancelled (positive : 0 < config.samplesPerCapture)
    (early : taken < 5 + config.candidates) :
    (Ledger.rig (rig.cancelledAt moment) stage).Bursts stream config.samplesPerCapture
      config.acquisitionOptions (Kept (Resting config.samplesPerCapture moment taken))
      (fun held => Kept (Capturing config.samplesPerCapture moment taken stage held))
      (fun held => Kept fun calls => held < config.samplesPerCapture ∧ calls.length < moment ∧
        Capturing config.samplesPerCapture moment taken stage held calls)
      fun halt => Kept (Halted config moment (halt.map (.acquisition stage))) where
  activate := by
    refine ensures_count.weaken (fun _ => id) ?_ ?_
    · rintro _ ledger ⟨made, past, calls_eq, resting⟩
      exact ⟨made, calls_eq ▸ resting.activate positive stream config.samplesPerCapture⟩
    · rintro cause ledger ⟨made, past, calls_eq, resting⟩
      exact ⟨made, calls_eq ▸ resting.halted_concat
        (.activated stage stream config.samplesPerCapture cause) id⟩
  now _ := id
  overflow _ := And.imp_right fun capturing => ⟨capturing.unread, nofun, nofun⟩
  cancelled held ledger missing wanted := by
    rintro ⟨made, capturing⟩
    have triggered : moment ≤ ledger.entries.length := by
      rcases wanted with none | stopped
      · cases none
      · exact made ▸ of_decide_eq_true stopped
    obtain ⟨last, ends, rfl, bursts⟩ := capturing.last
    obtain rfl := capturing.held_eq
    refine ⟨made, capturing.unread, ?_, fun _ => ?_⟩
    · rintro _ ⟨⟩
      exact .cancelled triggered ⟨missing, last, ends, bursts⟩ capturing.unchecked ends
    · rw [capturing.complete, if_pos missing]
      exact early
  clears held ledger missing wanted := by
    rintro ⟨made, capturing⟩
    have untriggered : ¬moment ≤ ledger.world.made := fun triggered =>
      wanted (.inr (decide_eq_true triggered))
    exact ⟨made, missing, made ▸ Nat.lt_of_not_le untriggered, capturing⟩
  late held ledger := by
    rintro ⟨made, missing, untriggered, capturing⟩
    obtain ⟨last, ends, rfl, bursts⟩ := capturing.last
    obtain rfl := capturing.held_eq
    refine ⟨made, capturing.unread, ?_, nofun⟩
    rintro _ ⟨⟩
    exact .late untriggered ⟨missing, last, ends, bursts⟩ ends
  read held wait missing := by
    refine ensures_count.weaken (fun _ => id) ?_ ?_
    · rintro delivery ledger ⟨made, past, calls_eq, missing, untriggered, capturing⟩
      exact ⟨made, calls_eq ▸ capturing.read missing untriggered stream _ wait delivery⟩
    · rintro status ledger ⟨made, past, calls_eq, missing, untriggered, capturing⟩
      split_ifs with again
      · exact ⟨made, calls_eq ▸ capturing.retry untriggered stream _ wait again⟩
      · have before : ¬moment ≤ past.length := Nat.not_le.mpr untriggered
        refine ⟨made, calls_eq ▸ ⟨?_, ?_, nofun⟩⟩
        · exact capturing.unread.concat fun later => absurd later before
        · rintro _ ⟨⟩
          exact .failed (capturing.unchecked.concat fun later => absurd later before)
            (.read stage stream _ wait status held (Bool.eq_false_iff.mpr again))

private theorem ensures_command_cancelled (rig : Rig σ η α) (moment : Nat) (stage : Stage)
    (taken : Nat) (command : Command α) :
    Ensures (Kept (Resting config.samplesPerCapture moment taken))
      ((Ledger.rig (rig.cancelledAt moment) stage).command command)
      (fun _ => Kept (Resting config.samplesPerCapture moment taken))
      fun cause => Kept (Halted config moment (.error (.configuration stage cause))) := by
  refine ensures_count.weaken (fun _ => id) ?_ ?_
  · rintro _ ledger ⟨made, past, calls_eq, resting⟩
    exact ⟨made, calls_eq ▸ resting.concat id id⟩
  · rintro cause ledger ⟨made, past, calls_eq, resting⟩
    exact ⟨made, calls_eq ▸ resting.halted_concat (.commanded stage command cause) id⟩

private theorem proceeds_cancelled (rig : Rig σ η α) (moment : Nat) (stream : η)
    (positive : 0 < config.samplesPerCapture) :
    Proceeds (fun _ => id) (Ledger.rig (rig.cancelledAt moment)) config stream
      (Kept (Resting config.samplesPerCapture moment 0))
      (fun _ taken => Kept (Resting config.samplesPerCapture moment taken))
      fun _ halt => Kept (Halted config moment halt) where
  started _ := id
  enters _ := id
  advances _ _ _ _ _ := id
  command := ensures_command_cancelled rig moment
  capture _ _ early := (ensures_capture (bursts_cancelled positive early) fun _ _ => id).weaken
    (fun _ => id) (fun _ _ => And.imp_right (And.imp_right Capturing.rest)) fun _ _ => id
  now _ _ _ := id
  note stage _ trial ledger := by
    rintro ⟨made, resting⟩
    exact ⟨by simp [Ledger.rig, Rig.cancelledAt, made], resting.concat id id⟩
  overflow _ _ _ := And.imp_right fun resting => ⟨resting.unread, nofun, nofun⟩

end Captures

/-- How the calls of a run end with its close, if it does not succeed. Only the close can fail
after the last capture. -/
def Over [Arithmetic α] (config : Config α) (moment : Nat) (halt : Halt CalibrationError)
    (entries : List (Entry η α)) : Prop :=
  (∃ calls closing, entries = calls ++ closing ∧
      (∀ entry ∈ closing, entry.event.closed?.isSome) ∧ Halted config moment halt calls) ∨
    ¬Cancels halt ∧ Resting config.samplesPerCapture moment (5 + config.candidates) entries

variable [Scalar α] {config : Config α} {moment : Nat}

private theorem Halted.toOver {halt : Halt CalibrationError} {calls : List (Entry η α)}
    (halted : Halted config moment halt calls) (closing : List (Entry η α))
    (closes : ∀ entry ∈ closing, entry.event.closed?.isSome) :
    Over config moment halt (calls ++ closing) :=
  .inl ⟨calls, closing, rfl, closes, halted⟩

private theorem Halted.toOver_nil {halt : Halt CalibrationError} {calls : List (Entry η α)}
    (halted : Halted config moment halt calls) : Over config moment halt calls :=
  List.append_nil calls ▸ halted.toOver [] (List.forall_mem_nil _)

private theorem ensures_cancelled (rig : Rig σ η α) (moment : Nat)
    (positive : 0 < config.samplesPerCapture)
    (frequency : α) (current : Stage) :
    Ensures (At current (Kept (Resting config.samplesPerCapture moment 0)))
      (runInStages (Ledger.rig (rig.cancelledAt moment)) config frequency)
      (fun _ progress => Kept (Resting config.samplesPerCapture moment (5 + config.candidates))
        progress.world)
      fun halt progress => Kept (Over config moment halt) progress.world := by
  have uses (stream : η) :
      Ensures (At current (Kept (Followed (Resting config.samplesPerCapture moment 0)
          ⟨.initial, .opened Channel.all (.ok stream)⟩)))
        (calibrateWatched (fun _ => id) (Ledger.rig (rig.cancelledAt moment)) config frequency
          stream)
        (fun _ progress => Kept (Resting config.samplesPerCapture moment (5 + config.candidates))
          progress.world)
        fun halt progress => Kept (Halted config moment halt) progress.world := by
    refine ((proceeds_cancelled rig moment stream positive).calibrate frequency current).weaken
      ?_ (fun _ _ => And.right) fun _ _ => id
    rintro progress ⟨stage_eq, made, past, calls_eq, resting⟩
    exact ⟨stage_eq, made, calls_eq ▸ resting.concat id id⟩
  rw [runInStages_eq_watched]
  refine ensures_runWatched (fun command => ?_) (ensures_count.weaken (fun _ => id)
    (fun _ _ => id) ?_) uses (fun stream outcome => ensures_count.weaken (fun _ => id) ?_ ?_)
    fun stream halt => ensures_count.weaken (fun _ => id) ?_ ?_
  · refine (ensures_command_cancelled rig moment .initial 0 command).weaken (fun _ => id)
      (fun _ _ => id) ?_
    rintro cause ledger ⟨made, halted⟩
    exact ⟨made, halted.toOver_nil⟩
  · rintro cause ledger ⟨made, past, calls_eq, resting⟩
    exact ⟨made, calls_eq ▸ (resting.halted_concat (.opened _ _ cause) id).toOver_nil⟩
  · rintro _ ledger ⟨made, past, calls_eq, resting⟩
    exact ⟨made, calls_eq ▸ resting.concat id id⟩
  · rintro cause ledger ⟨made, past, calls_eq, resting⟩
    exact ⟨made, .inr ⟨id, calls_eq ▸ resting.concat id id⟩⟩
  · rintro _ ledger ⟨made, past, calls_eq, halted⟩
    exact ⟨made, calls_eq ▸ halted.toOver [_] (List.forall_mem_singleton.mpr rfl)⟩
  · rintro cause ledger ⟨made, past, calls_eq, halted⟩
    exact ⟨made, calls_eq ▸ halted.toOver [_] (List.forall_mem_singleton.mpr rfl)⟩

/-- The last capture of a calibration is complete: five were taken, and one for each candidate. -/
def FinalTaken (config : Config α) (calls : List (Entry η α)) : Prop :=
  5 + config.candidates ≤ (Yield.ofEntries config.samplesPerCapture calls).complete

omit [Scalar α] in
private theorem resting_nil {requested : Nat} :
    Resting requested moment 0 ([] : List (Entry η α)) where
  unread _ member := by simp at member
  unchecked _ _ within := absurd within (Nat.not_lt_zero _)
  idle _ := fun ⟨_, _, ends, _⟩ => nomatch ends
  complete := rfl

omit [Scalar α] in
private theorem not_isRead_of_closed {event : Event η α} (closes : event.closed?.isSome) :
    ¬event.IsRead := by
  cases event <;> first | exact id | cases closes

private theorem Over.unread {halt : Halt CalibrationError} {entries : List (Entry η α)}
    (ending : Over config moment halt entries) : Unread moment entries := by
  rcases ending with ⟨calls, closing, rfl, closes, halted⟩ | ⟨-, resting⟩
  · intro entry member
    rw [List.drop_append] at member
    rcases List.mem_append.mp member with earlier | last
    · exact halted.unread entry earlier
    · exact not_isRead_of_closed (closes entry (List.mem_of_mem_drop last))
  · exact resting.unread

omit [Scalar α] in
private theorem Resting.finalTaken {entries : List (Entry η α)}
    (resting : Resting config.samplesPerCapture moment (5 + config.candidates) entries) :
    FinalTaken config (entries.take moment) := by
  have complete := resting.complete
  rw [← List.take_append_drop moment entries, Yield.complete_append_of_unread resting.unread]
    at complete
  exact complete.ge

/-- A capture that is cancelled is not the last one, and nothing is read after it. -/
private theorem Over.not_finalTaken {halt : Halt CalibrationError} {entries : List (Entry η α)}
    (ending : Over config moment halt entries) (cancels : Cancels halt) :
    ¬FinalTaken config (entries.take moment) := by
  rcases ending with ⟨calls, closing, rfl, closes, halted⟩ | ⟨succeeded, -⟩
  · refine Nat.not_le.mpr ?_
    calc (Yield.ofEntries config.samplesPerCapture ((calls ++ closing).take moment)).complete
      _ ≤ (Yield.ofEntries config.samplesPerCapture (calls ++ closing)).complete := by
        conv_rhs => rw [← List.take_append_drop moment (calls ++ closing)]
        exact Yield.complete_le_append
      _ = (Yield.ofEntries config.samplesPerCapture calls).complete :=
        Yield.complete_append_of_unread fun entry member =>
          not_isRead_of_closed (closes entry member)
      _ < 5 + config.candidates := halted.early cancels
  · exact absurd cancels succeeded

/-- How a run ends that is cancelled at a moment. -/
private theorem over_run (rig : Rig σ η α) (moment : Nat)
    (positive : 0 < config.samplesPerCapture) (frequency : α) (progress : Progress (Counted σ))
    (untouched : progress.world.made = 0) :
    match (run (rig.cancelledAt moment) config frequency progress).1 with
    | .ok _ => Resting config.samplesPerCapture moment (5 + config.candidates)
        (ledger (rig.cancelledAt moment) config frequency progress)
    | .error halt => Over config moment halt
        (ledger (rig.cancelledAt moment) config frequency progress) := by
  have reached := ensures_cancelled rig moment positive frequency progress.stage
    ⟨progress.stage, .start progress.world⟩ ⟨rfl, untouched, resting_nil⟩
  rw [run_eq_ledgered]
  unfold ledger ledgered
  rcases outcome : runInStages (Ledger.rig (rig.cancelledAt moment)) config frequency _ with
    ⟨_ | _, after⟩ <;> rw [outcome] at reached <;> exact reached.2

/-- Whatever the device refuses, a run whose counts stay in range does not overflow. -/
private theorem run_in_range (rig : Rig σ η α) {latest : Nat} (inRange : config.InRange latest)
    (bounded : ∀ world, (rig.now world).1 ≤ latest) (frequency : α) :
    Ensures (fun _ => True) (run rig config frequency) (fun _ _ => True)
      fun halt _ => halt ≠ .overflow := by
  have refuses {β : Type} (stage : Stage) (action : Action (Progress σ) DeviceError β) :
      Ensures (fun _ => True) action (fun _ _ => True)
        fun cause _ => Halt.error (CalibrationError.configuration stage cause) ≠ .overflow :=
    (ensures_true action).weaken (fun _ => id) (fun _ _ => id) fun _ _ _ => nofun
  have calibrates (stream : η) : Ensures (fun _ => True) (calibrate rig config frequency stream)
      (fun _ _ => True) fun halt _ => halt ≠ .overflow :=
    ((performs_in_range inRange bounded stream).calibrate frequency ⟨0, 0⟩).weaken
      (fun _ => id) (fun _ _ _ => trivial) fun _ _ => id
  refine Ensures.bind (ensures_forEach fun command _ => (refuses .initial _).mapError) fun _ => ?_
  refine ensures_withStream (refuses .initial _) calibrates (fun stream _ => refuses .done _)
    fun stream halt => ?_
  intro progress fails
  rcases (Progress.rig rig).closeStream stream progress with ⟨_ | _, after⟩ <;> exact fails

/-- The run ends before its last capture is complete: it reports an error that stands for how it
was interrupted, after closing the stream that it held. -/
def EndsEarly (config : Config α) (moment : Nat) (error : CalibrationError)
    (entries : List (Entry η α)) : Prop :=
  ∃ calls closing, entries = calls ++ closing ∧
    (∀ entry ∈ closing, entry.event.closed?.isSome) ∧ Interrupted config moment calls error

/-- **Cancellation.** Whenever a run of a valid configuration is cancelled, it makes no read any
more and closes the stream that it opened. If its last capture was not complete by then it ends
early, unless its counts overflow, as they do not when they stay in range. After the last capture
the run is the one that is made without stop requests. -/
theorem cancellation_honoured (rig : Rig σ η α) (valid : config.isValid) (moment : Nat)
    (frequency : α) (progress : Progress σ) {entries : List (Entry η α)}
    {result : Except (Halt CalibrationError) (Outcome α)} {after : Progress (Counted σ)}
    (runs : run (rig.cancelledAt moment) config frequency progress.counted = (result, after))
    (writes : ledger (rig.cancelledAt moment) config frequency progress.counted = entries) :
    Unread moment entries ∧ ClosesOnce (entries.map Entry.event) ∧
      (¬FinalTaken config (entries.take moment) → result = .error .overflow ∨
        ∃ error, result = .error (.error error) ∧ EndsEarly config moment error entries) ∧
      (FinalTaken config (entries.take moment) →
        run rig.unstopped config frequency progress = (result, after.map Counted.world)) ∧
      ∀ latest, config.InRange latest → (∀ world, (rig.now world).1 ≤ latest) →
        result ≠ .error .overflow := by
  have positive : 0 < config.samplesPerCapture := (Config.isValid_iff_obeys.mp valid).samples
  have course := run_course (rig.cancelledAt moment) config frequency progress.counted
  have ending := over_run rig moment positive frequency progress.counted rfl
  rw [runs, writes] at ending
  rw [writes] at course
  refine ⟨?_, course.closesOnce, fun unfinished => ?_, fun finished => ?_, ?_⟩
  · rcases result with halt | outcome
    · exact ending.unread
    · exact ending.unread
  · rcases result with (error | _) | outcome
    · rcases ending with ⟨calls, closing, rfl, closes, halted⟩ | ⟨-, resting⟩
      · exact .inr ⟨error, rfl, calls, closing, rfl, closes, halted.interrupted error rfl⟩
      · exact absurd resting.finalTaken unfinished
    · exact .inl rfl
    · exact absurd ending.finalTaken unfinished
  · have shadowed := shadows_runInStages (fun _ => Counted.shadows_rig rig moment) config frequency
      progress.counted
    rcases cutShort_run (rig.cancelledAt moment) config frequency progress.counted with
      same | ⟨halt, stopped, ends, cancels⟩
    · rw [← run_eq_inStages, ← run_eq_inStages, ← same, runs] at shadowed
      exact shadowed
    · obtain ⟨rfl, rfl⟩ := Prod.mk.inj (runs.symm.trans ends)
      exact absurd finished (ending.not_finalTaken cancels)
  · intro latest inRange bounded overflows
    have reached := run_in_range (rig.cancelledAt moment) inRange
      (fun counted => bounded counted.world) frequency progress.counted trivial
    rw [runs, overflows] at reached
    exact reached rfl

/-- The read that completes the second capture is under way when the run is cancelled. It then
counts the points of a grid that has too many of them, before it looks at the stop request. -/
theorem cancellation_missed : wide.isValid ∧
    (run ((Rig.obliging 0).cancelledAt 50) wide 1000000000
      (Progress.counted ⟨.initial, ()⟩)).1 = .error .overflow ∧
    ¬FinalTaken wide ((ledger ((Rig.obliging 0).cancelledAt 50) wide 1000000000
      (Progress.counted ⟨.initial, ()⟩)).take 50) := by
  refine ⟨by decide +kernel, by decide +kernel, ?_⟩
  unfold FinalTaken
  decide +kernel

/-- Cancelled during the read that completes its second capture, a run ends early. Cancelled during
the close of its stream it does not. -/
theorem cancellation_honoured_quick : quick.isValid ∧
    (∃ error, (run ((Rig.obliging 0).cancelledAt 50) quick 1000000000
        (Progress.counted ⟨.initial, ()⟩)).1 = .error (.error error) ∧
      EndsEarly quick 50 error (ledger ((Rig.obliging 0).cancelledAt 50) quick 1000000000
        (Progress.counted ⟨.initial, ()⟩))) ∧
    (run (Rig.obliging 0).unstopped quick 1000000000 ⟨.initial, ()⟩).1 =
      (run ((Rig.obliging 0).cancelledAt 113) quick 1000000000
        (Progress.counted ⟨.initial, ()⟩)).1 := by
  have valid : quick.isValid := by decide +kernel
  have inRange : quick.InRange 0 := ⟨by decide, by decide, by decide⟩
  have unfinished : ¬FinalTaken quick ((ledger ((Rig.obliging 0).cancelledAt 50) quick 1000000000
      (Progress.counted ⟨.initial, ()⟩)).take 50) := by
    unfold FinalTaken
    decide +kernel
  have finished : FinalTaken quick ((ledger ((Rig.obliging 0).cancelledAt 113) quick 1000000000
      (Progress.counted ⟨.initial, ()⟩)).take 113) := by
    unfold FinalTaken
    decide +kernel
  obtain ⟨-, -, early, -, bounded⟩ := cancellation_honoured (Rig.obliging 0) valid 50 1000000000
    ⟨.initial, ()⟩ Prod.mk.eta.symm rfl
  obtain ⟨-, -, -, late, -⟩ := cancellation_honoured (Rig.obliging 0) valid 113 1000000000
    ⟨.initial, ()⟩ Prod.mk.eta.symm rfl
  refine ⟨valid, ?_, ?_⟩
  · exact (early unfinished).resolve_left (bounded 0 inRange fun _ => Nat.le_refl 0)
  · rw [late finished]

end Calibration

end LoopbackCalibration
