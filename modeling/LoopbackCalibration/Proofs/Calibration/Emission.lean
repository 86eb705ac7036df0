import LoopbackCalibration.Proofs.Action.Ensures
import LoopbackCalibration.Proofs.Calibration.Journal

/-! # What actions add to a journal

`Calibration.Emits` says which events an action of a journaled rig adds, whatever was
written down before. Issuing commands adds these commands, a capture adds one burst
(`Captures`), and neither adds a trial.
-/

namespace LoopbackCalibration

variable {σ η α β γ ε ε' : Type}

/-- The events of commands that were carried out. -/
def Event.issued (commands : List (Command α)) : List (Event η α) :=
  commands.map fun command => .commanded command (.ok ())

/-- Whether an event gives one of the listed commands. -/
def Event.Gives (commands : List (Command α)) (event : Event η α) : Prop :=
  ∃ command ∈ commands, ∃ outcome, event = .commanded command outcome

/-- Whether an event reads a stream. -/
def Event.Reads (stream : η) (event : Event η α) : Prop :=
  ∃ rooms wait outcome, event = .read stream rooms wait outcome

/-- Whether an event belongs to a burst of a stream. -/
def Event.Serves (stream : η) (event : Event η α) : Prop :=
  (∃ count outcome, event = .activated stream count outcome) ∨ event.Reads stream

theorem Event.gives_of_mem_issued {commands : List (Command α)} {event : Event η α}
    (member : event ∈ Event.issued commands) : event.Gives commands := by
  obtain ⟨command, listed, rfl⟩ := List.mem_map.mp member
  exact ⟨command, listed, _, rfl⟩

/-- The samples collected for a burst of a requested size, after one more event. -/
def RawCapture.gather [Arithmetic α] (requested : Nat) (raw : RawCapture α) :
    Event η α → RawCapture α
  | .read _ _ _ (.ok delivery) =>
    raw.append delivery (min delivery.count (requested - raw.size))
  | _ => raw

/-- The events are one complete burst on a stream, and the block is what it brought: the
burst is started, then the stream is read until the requested samples are there, and
nothing else happens. -/
structure Captures [Arithmetic α] (stream : η) (requested : Nat) (burst : List (Event η α))
    (block : SampleBlock α) : Prop where
  /-- The burst is started and then read. -/
  started : ∃ reads, burst = .activated stream requested (.ok ()) :: reads ∧
    ∀ event ∈ reads, event.Reads stream
  /-- The samples of the block are those that were read. -/
  block_eq : block = (burst.foldl (.gather requested) RawCapture.empty).block
  /-- As many as requested were read. -/
  complete : (burst.foldl (.gather requested) (RawCapture.empty (α := α))).size = requested

theorem Captures.serves [Arithmetic α] {stream : η} {requested : Nat}
    {burst : List (Event η α)} {block : SampleBlock α}
    (captures : Captures stream requested burst block) : ∀ event ∈ burst, event.Serves stream := by
  obtain ⟨reads, rfl, only⟩ := captures.started
  intro event member
  rcases List.mem_cons.mp member with rfl | later
  · exact .inl ⟨requested, .ok (), rfl⟩
  · exact .inr (only event later)

namespace Calibration

open Action

/-- A run that ends with a value or an error adds events to a log: they satisfy `success`
when it gives a value, and `failure` when it fails. -/
def Adds (log : List (Event η α)) (run : Except ε β × Progress (Journal σ η α))
    (success : β → List (Event η α) → Prop) (failure : List (Event η α) → Prop) : Prop :=
  ∃ emitted, run.2.world.events = log ++ emitted ∧
    match run.1 with
    | .ok value => success value emitted
    | .error _ => failure emitted

/-- What an action adds wherever it is started. -/
def Emits (action : Action (Progress (Journal σ η α)) ε β)
    (success : β → List (Event η α) → Prop) (failure : List (Event η α) → Prop) : Prop :=
  ∀ progress, Adds progress.world.events (action progress) success failure

variable {success : β → List (Event η α) → Prop} {failure : List (Event η α) → Prop}
  {action : Action (Progress (Journal σ η α)) ε β}

/-- What a run adds behind earlier events. -/
theorem Adds.behind {log between earlier : List (Event η α)}
    {run : Except ε β × Progress (Journal σ η α)} {success' : β → List (Event η α) → Prop}
    {failure' : List (Event η α) → Prop} (adds : Adds between run success' failure')
    (grown : between = log ++ earlier)
    (good : ∀ value later, success' value later → success value (earlier ++ later))
    (bad : ∀ later, failure' later → failure (earlier ++ later)) :
    Adds log run success failure := by
  obtain ⟨later, grown', outcome⟩ := adds
  refine ⟨earlier ++ later, by rw [grown', grown, List.append_assoc], ?_⟩
  rcases result : run.1 with _ | value <;> rw [result] at outcome
  · exact bad later outcome
  · exact good value later outcome

/-- Started with a log satisfying `before`, the action leaves one satisfying `good` when it
gives a value, and one satisfying `bad` when it fails. -/
def EnsuresLog (before : List (Event η α) → Prop) (action : Action (Progress (Journal σ η α)) ε β)
    (good : β → List (Event η α) → Prop) (bad : List (Event η α) → Prop) : Prop :=
  Ensures (fun progress => before progress.world.events) action
    (fun value after => good value after.world.events) (fun _ after => bad after.world.events)

variable {before : List (Event η α) → Prop} {good : β → List (Event η α) → Prop}
  {bad : List (Event η α) → Prop}

/-- What an action emits extends what is known of the log before it. -/
theorem Emits.ensuresLog (emits : Emits action success failure)
    (succeeds : ∀ past value emitted, before past → success value emitted →
      good value (past ++ emitted))
    (fails : ∀ past emitted, before past → failure emitted → bad (past ++ emitted)) :
    EnsuresLog before action good bad := by
  intro progress known
  obtain ⟨emitted, grown, outcome⟩ := emits progress
  rcases result : action progress with ⟨_ | value, after⟩ <;> rw [result] at grown outcome
  · change bad after.world.events
    rw [grown]
    exact fails _ _ known outcome
  · change good value after.world.events
    rw [grown]
    exact succeeds _ _ _ known outcome

theorem EnsuresLog.bind {first : Action (Progress (Journal σ η α)) ε γ}
    {next : γ → Action (Progress (Journal σ η α)) ε β} {middle : γ → List (Event η α) → Prop}
    (begins : EnsuresLog before first middle bad)
    (continues : ∀ value, EnsuresLog (middle value) (next value) good bad) :
    EnsuresLog before (Action.bind first next) good bad :=
  Ensures.bind begins continues

theorem ensuresLog_pure (value : β) (holds : ∀ log, before log → good value log) :
    EnsuresLog before (Action.pure value : Action (Progress (Journal σ η α)) ε β) good bad :=
  ensures_pure value fun progress known => holds progress.world.events known

theorem EnsuresLog.weaken {before' : List (Event η α) → Prop}
    {good' : β → List (Event η α) → Prop} {bad' : List (Event η α) → Prop}
    (ensures : EnsuresLog before' action good' bad')
    (starts : ∀ log, before log → before' log)
    (succeeds : ∀ value log, good' value log → good value log)
    (fails : ∀ log, bad' log → bad log) : EnsuresLog before action good bad :=
  Ensures.weaken ensures (fun _ => starts _) (fun _ _ => succeeds _ _) fun _ _ => fails _

/-- What every trial preserves of the log, a search preserves. -/
theorem ensuresLog_tryGrids [Scalar α]
    {attempt : β → TestPoint α → β → Action (Progress (Journal σ η α)) (Halt ε) β}
    (each : ∀ start point found,
      EnsuresLog (good found) (attempt start point found) good bad)
    (overflow : ∀ found log, good found log → bad log) (grids : List Grid) (found : β) :
    EnsuresLog (good found) (Descent.tryGrids attempt grids found) good bad :=
  Descent.ensures_tryGrids each (fun _ _ _ found _ => overflow found _) found

/-- What is known of the log after some grids, and underway on the grid behind them. -/
theorem ensuresLog_tryGrids_inOrder [Scalar α]
    {attempt : β → TestPoint α → β → Action (Progress (Journal σ η α)) (Halt ε) β}
    {grids : List Grid} (reached : List Grid → β → List (Event η α) → Prop)
    (underway : List Grid → Grid → Nat → β → β → List (Event η α) → Prop)
    (begins : ∀ done grid rest, grids = done ++ grid :: rest → ∀ found log,
      reached done found log → underway done grid 0 found found log)
    (each : ∀ done grid rest, grids = done ++ grid :: rest → ∀ index < grid.size,
      ∀ start found, EnsuresLog (underway done grid index start found)
        (attempt start (grid.point index) found) (underway done grid (index + 1) start) bad)
    (ends : ∀ done grid rest, grids = done ++ grid :: rest → ∀ start found log,
      underway done grid grid.size start found log → reached (done ++ [grid]) found log)
    (overflow : ∀ done found log, reached done found log → bad log) (found : β) :
    EnsuresLog (reached [] found) (Descent.tryGrids attempt grids found) (reached grids) bad :=
  Descent.ensures_tryGrids_inOrder
    (fun done found (progress : Progress (Journal σ η α)) =>
      reached done found progress.world.events)
    (fun done grid index start found progress =>
      underway done grid index start found progress.world.events)
    (fun done grid rest visits found _ => begins done grid rest visits found _) each
    (fun done grid rest visits start found _ => ends done grid rest visits start found _)
    (fun done found _ => overflow done found _) found

theorem Emits.weaken {success' : β → List (Event η α) → Prop}
    {failure' : List (Event η α) → Prop} (emits : Emits action success failure)
    (good : ∀ value emitted, success value emitted → success' value emitted)
    (bad : ∀ emitted, failure emitted → failure' emitted) : Emits action success' failure' := by
  intro progress
  exact (emits progress).behind (List.append_nil _).symm good bad

theorem emits_pure (value : β) (holds : success value []) :
    Emits (Action.pure value : Action (Progress (Journal σ η α)) ε β) success failure :=
  fun _ => ⟨[], (List.append_nil _).symm, holds⟩

/-- The second action emits behind what the first one emitted. -/
theorem Emits.bind {first : Action (Progress (Journal σ η α)) ε γ}
    {next : γ → Action (Progress (Journal σ η α)) ε β}
    {begun : γ → List (Event η α) → Prop} {broken : List (Event η α) → Prop}
    (begins : Emits first begun broken)
    (breaks : ∀ emitted, broken emitted → failure emitted)
    (continues : ∀ value earlier, begun value earlier →
      Emits (next value) (fun result later => success result (earlier ++ later))
        (fun later => failure (earlier ++ later))) :
    Emits (Action.bind first next) success failure := by
  intro progress
  obtain ⟨earlier, grown, outcome⟩ := begins progress
  unfold Action.bind
  rcases result : first progress with ⟨_ | value, middle⟩ <;> rw [result] at grown outcome
  · exact ⟨earlier, grown, breaks earlier outcome⟩
  · exact (continues value earlier outcome middle).behind grown (fun _ _ => id) fun _ => id

theorem Emits.mapError (emits : Emits action success failure) (restate : ε → ε') :
    Emits (mapError restate action) success failure := by
  intro progress
  obtain ⟨emitted, grown, outcome⟩ := emits progress
  unfold Action.mapError
  rcases result : action progress with ⟨_ | value, after⟩ <;> rw [result] at grown outcome
  · exact ⟨emitted, grown, outcome⟩
  · exact ⟨emitted, grown, outcome⟩

/-- A call of a journaled rig adds its event. -/
theorem emits_record (event : Except ε β → Event η α) (call : Action σ ε β) :
    Emits (Progress.onWorld (Journal.record event call))
      (fun value emitted => emitted = [event (.ok value)])
      (fun emitted => ∃ cause, emitted = [event (.error cause)]) := by
  intro progress
  refine ⟨[event (call progress.world.world).1], rfl, ?_⟩
  change match (call progress.world.world).1 with
    | .ok value => [event (call progress.world.world).1] = [event (.ok value)]
    | .error _ => ∃ cause, [event (call progress.world.world).1] = [event (.error cause)]
  rcases (call progress.world.world).1 with cause | value
  · exact ⟨cause, rfl⟩
  · rfl

variable {rig : Rig σ η α}

theorem emits_issueDuring (stage : Stage) (commands : List (Command α)) :
    Emits (issueDuring (Journal.rig rig) stage commands)
      (fun _ emitted => emitted = Event.issued commands)
      (fun emitted => ∀ event ∈ emitted, event.Gives commands) := by
  induction commands with
  | nil => exact emits_pure () rfl
  | cons command rest ih =>
      refine ((emits_record (.commanded command) (rig.command command)).mapError _).bind ?_ ?_
      · rintro emitted ⟨cause, rfl⟩ event member
        exact ⟨command, List.mem_cons_self, _, List.mem_singleton.mp member⟩
      · rintro _ earlier rfl
        refine ih.weaken (fun _ later same => ?_) fun later given event member => ?_
        · rw [same]
          rfl
        · rcases List.mem_append.mp member with first | behind
          · exact ⟨command, List.mem_cons_self, _, List.mem_singleton.mp first⟩
          · obtain ⟨other, listed, given⟩ := given event behind
            exact ⟨other, List.mem_cons_of_mem _ listed, given⟩

/-- Issued commands are what is written down, unless one fails. -/
theorem emits_issue (commands : List (Command α)) :
    Emits (issue (Journal.rig rig) commands)
      (fun _ emitted => emitted = Event.issued commands)
      (fun emitted => ∀ event ∈ emitted, event.Gives commands) :=
  fun progress => emits_issueDuring progress.stage commands progress

private theorem emits_activate (stream : η) (count : Nat) :
    Emits ((Progress.rig (Journal.rig rig)).activate stream count)
      (fun _ emitted => emitted = [.activated stream count (.ok ())])
      (fun emitted => ∃ cause, emitted = [.activated stream count (.error cause)]) :=
  emits_record _ _

section Capturing

/-- One more read before events that only read. -/
private theorem only_reads_cons {stream : η} {rooms : List Nat} {wait : Duration}
    {outcome : Except StatusCode (Delivery α)} {reads : List (Event η α)}
    (only : ∀ event ∈ reads, event.Reads stream) :
    ∀ event ∈ Event.read stream rooms wait outcome :: reads, event.Reads stream :=
  List.forall_mem_cons.mpr ⟨⟨rooms, wait, outcome, rfl⟩, only⟩

/-- A read after a look at the clock is all that is written down of both. -/
private theorem events_of_read {progress looked after : Progress (Journal σ η α)} {instant : Nat}
    {stream : η} {rooms : List Nat} {wait : Duration} {result : Except StatusCode (Delivery α)}
    (look : (Progress.rig (Journal.rig rig)).now progress = (instant, looked))
    (read : (Progress.rig (Journal.rig rig)).read stream rooms wait looked = (result, after)) :
    after.world.events = progress.world.events ++ [.read stream rooms wait result] := by
  cases look
  cases read
  rfl

variable [Arithmetic α]

private theorem emits_collect (stream : η) (options : AcquisitionOptions)
    (requested deadline : Nat) (raw : RawCapture α) (bounded : raw.size ≤ requested) :
    Emits (Acquisition.collect (Progress.rig (Journal.rig rig)) stream options requested deadline
        raw)
      (fun collected reads => (∀ event ∈ reads, event.Reads stream) ∧
        collected = reads.foldl (.gather requested) raw ∧ collected.size = requested)
      (fun reads => ∀ event ∈ reads, event.Reads stream) := by
  intro progress
  fun_induction Acquisition.collect (Progress.rig (Journal.rig rig)) stream options requested
    deadline raw progress with
  | case1 raw progress complete =>
      exact ⟨[], (List.append_nil _).symm, List.forall_mem_nil _, rfl,
        Nat.le_antisymm bounded complete⟩
  | case2 => exact ⟨[], (List.append_nil _).symm, List.forall_mem_nil _⟩
  | case3 raw progress missing wanted instant looked look late =>
      cases look
      exact ⟨[], (List.append_nil _).symm, List.forall_mem_nil _⟩
  | case4 raw progress missing wanted instant looked look early room wait delivery after read
      ih =>
      have within : (raw.append delivery (min delivery.count room)).size ≤ requested := by
        rw [RawCapture.size_append]
        omega
      refine (ih within).behind (events_of_read look read) ?_ fun _ => only_reads_cons
      exact fun _ _ gathered => ⟨only_reads_cons gathered.1, gathered.2⟩
  | case5 raw progress missing wanted instant looked look early room wait status after read again
      ih =>
      refine (ih bounded).behind (events_of_read look read) ?_ fun _ => only_reads_cons
      exact fun _ _ gathered => ⟨only_reads_cons gathered.1, gathered.2⟩
  | case6 raw progress missing wanted instant looked look early room wait status after read =>
      exact ⟨_, events_of_read look read, only_reads_cons (List.forall_mem_nil _)⟩

private theorem emits_acquire (stream : η) (requested : Nat) (options : AcquisitionOptions) :
    Emits (Acquisition.acquire (Progress.rig (Journal.rig rig)) stream requested options)
      (fun block burst => Captures stream requested burst block)
      (fun burst => ∀ event ∈ burst, event.Serves stream) := by
  intro progress
  unfold Acquisition.acquire
  have activates : Emits ((Progress.rig (Journal.rig rig)).activate stream requested) _ _ :=
    emits_activate stream requested
  obtain ⟨emitted, grown, outcome⟩ := activates progress
  rcases result : (Progress.rig (Journal.rig rig)).activate stream requested progress with
    ⟨cause | _, started⟩ <;> rw [result] at grown outcome <;> dsimp only
  · obtain ⟨cause, rfl⟩ := outcome
    exact ⟨_, grown, List.forall_mem_singleton.mpr (.inl ⟨_, _, rfl⟩)⟩
  · obtain rfl := outcome
    obtain ⟨instant, looked, reading, unchanged⟩ : ∃ instant looked,
        (Progress.rig (Journal.rig rig)).now started = (instant, looked) ∧
          looked.world.events = started.world.events := ⟨_, _, rfl, rfl⟩
    simp only [reading]
    split_ifs
    · exact ⟨_, grown, List.forall_mem_singleton.mpr (.inl ⟨_, _, rfl⟩)⟩
    · exact ⟨_, unchanged.trans grown, List.forall_mem_singleton.mpr (.inl ⟨_, _, rfl⟩)⟩
    · have collected : Adds looked.world.events (Acquisition.collect
          (Progress.rig (Journal.rig rig)) stream options requested
          (instant + options.timeout.nanoseconds) .empty looked) _ _ :=
        emits_collect stream options requested _ .empty (Nat.zero_le _) looked
      rcases result' : Acquisition.collect (Progress.rig (Journal.rig rig)) stream options
        requested _ _ looked with ⟨cause | raw, after⟩ <;> rw [result'] at collected <;>
        dsimp only
      · obtain ⟨reads, grown', only⟩ := collected
        refine ⟨_ :: reads, by rw [grown', unchanged, grown, List.append_assoc]; rfl, ?_⟩
        exact List.forall_mem_cons.mpr ⟨.inl ⟨_, _, rfl⟩, fun event member =>
          .inr (only event member)⟩
      · obtain ⟨reads, grown', only, rfl, complete⟩ := collected
        exact ⟨_ :: reads, by rw [grown', unchanged, grown, List.append_assoc]; rfl,
          ⟨reads, rfl, only⟩, rfl, complete⟩

/-- A capture is one burst. -/
theorem emits_capture (config : Config α) (stream : η) :
    Emits (capture (Journal.rig rig) config stream)
      (fun block burst => Captures stream config.samplesPerCapture burst block)
      (fun burst => ∀ event ∈ burst, event.Serves stream) :=
  fun progress => (emits_acquire stream _ _).mapError _ progress

end Capturing

/-- A trial is written down when it is told of. -/
theorem emits_note (trial : Trial α) :
    Emits (note (Journal.rig rig) trial) (fun _ emitted => emitted = [.tried trial])
      fun _ => False :=
  fun _ => ⟨_, rfl, rfl⟩

section Journaled

variable [Scalar α] {config : Config α} {frequency : α} {stream : η}
  {good : Outcome α → List (Event η α) → Prop}
  (ensures : EnsuresLog before (calibrate (Journal.rig rig) config frequency stream) good bad)
  (start : before []) (progress : Progress σ)

include ensures start

/-- What a calibration ensures of its log, the journal of a run has. -/
theorem EnsuresLog.good_or_bad_journal :
    (∃ outcome, good outcome (journal rig config frequency stream progress)) ∨
      bad (journal rig config frequency stream progress) := by
  have reached := ensures ⟨progress.stage, .start progress.world⟩ start
  unfold journal journaled
  rcases result : calibrate (Journal.rig rig) config frequency stream
    ⟨progress.stage, .start progress.world⟩ with ⟨_ | outcome, after⟩ <;> rw [result] at reached
  · exact .inr reached
  · exact .inl ⟨outcome, reached⟩

theorem EnsuresLog.good_journal {outcome : Outcome α} {after : Progress σ}
    (success : calibrate rig config frequency stream progress = (.ok outcome, after)) :
    good outcome (journal rig config frequency stream progress) := by
  have reached := ensures ⟨progress.stage, .start progress.world⟩ start
  rw [calibrate_eq_journaled] at success
  unfold journal
  unfold journaled at success ⊢
  rcases result : calibrate (Journal.rig rig) config frequency stream
    ⟨progress.stage, .start progress.world⟩ with ⟨_ | outcome', after'⟩ <;>
    rw [result] at reached success <;> cases success
  exact reached

end Journaled

end Calibration

end LoopbackCalibration
