import Mathlib.Algebra.Order.BigOperators.Group.List
import Mathlib.Algebra.Order.Group.Nat
import LoopbackCalibration.Proofs.Acquisition.Chunks
import LoopbackCalibration.Proofs.Calibration.Agree
import LoopbackCalibration.Proofs.Calibration.Conduct
import LoopbackCalibration.Proofs.Calibration.Emission
import LoopbackCalibration.Proofs.Calibration.Ledger

/-! # The work of a calibration

A calibration takes one capture to adjust the gain, one before and one after each search, and
one for each point that a search tries. It writes the IQ balances of both channels with every
point, when it clears them and when it applies what a search has found. Whatever keeps a tally
of captures and of such writes thus counts a fixed number of each when a calibration succeeds
(`Calibration.Performs.calibrate`).
-/

namespace LoopbackCalibration

open Action

variable {σ η α β : Type}

/-- The command writes an IQ balance. -/
def Command.balances : Command α → Bool
  | .iqBalance .. => true
  | _ => false

/-- The command is one that a device may refuse for its value. None but the setup gives such
commands. -/
def Command.refusable : Command α → Bool
  | .sampleRate .. => true
  | .setting .. => true
  | _ => false

/-- Captures taken and IQ balances written. -/
structure Work where
  captures : Nat
  balances : Nat

/-- The work done when commands have been given. -/
def Work.write (work : Work) (commands : List (Command α)) : Work :=
  { work with balances := work.balances + commands.countP Command.balances }

theorem Work.write_cons (work : Work) (command : Command α) (rest : List (Command α)) :
    work.write (command :: rest) = (work.write [command]).write rest := by
  simp only [write, List.countP_cons, List.countP_nil, mk.injEq, true_and]
  omega

/-- The work done when one more capture has been taken. -/
def Work.capture (work : Work) : Work := { work with captures := work.captures + 1 }

/-- The work after so many points of a search. -/
def Work.search (work : Work) (points : Nat) : Work :=
  ⟨work.captures + points, work.balances + 2 * points⟩

/-- The work after a calibration. -/
def Work.calibrate [Arithmetic α] (work : Work) (config : Config α) : Work :=
  ⟨work.captures + (5 + config.candidates), work.balances + (8 + 2 * config.candidates)⟩

theorem Config.fits_of_candidates [Arithmetic α] {config : Config α}
    (few : config.candidates < 2 ^ (64 : Nat)) {grid : Grid} (member : grid ∈ config.grids) :
    grid.fits := by
  have within : grid.size ≤ (config.grids.map Grid.size).sum :=
    List.single_le_sum (by simp) _ (List.mem_map_of_mem member)
  have total := config.two_mul_sum_grids
  exact decide_eq_true (by omega)

theorem Rig.Chunks.progress {rig : Rig σ η α} {stream : η} {limit : Nat} {clock : Nat → Nat}
    {left : Nat → Nat → Nat → σ → Prop} (chunks : rig.Chunks stream limit clock left) :
    (Progress.rig rig).Chunks stream limit clock fun burst reads looks progress =>
      left burst reads looks progress.world where
  read burst reads looks wait some :=
    Progress.ensures_onWorld (chunks.read burst reads looks wait some)
  now burst reads looks progress := chunks.now burst reads looks progress.world
  stopRequested burst reads looks progress :=
    chunks.stopRequested burst reads looks progress.world

namespace Calibration

/-- A capture in chunks that is part of a calibration. -/
theorem capture_of_chunks [Arithmetic α] {rig : Rig σ η α} {config : Config α} {stream : η}
    {limit : Nat} {clock : Nat → Nat} {left : Nat → Nat → Nat → σ → Prop} {before : σ → Prop}
    (reads looks : Nat) (chunks : rig.Chunks stream limit clock left) (chunk : 0 < limit)
    (activates : Ensures before (rig.activate stream config.samplesPerCapture)
      (fun _ => left config.samplesPerCapture reads looks) fun _ _ => False)
    (fits : config.samplesPerCapture ≤ Acquisition.capacity) :
    Ensures (fun progress => before progress.world) (capture rig config stream)
      (fun _ progress => left 0 (reads + config.samplesPerCapture ⌈/⌉ limit)
        (looks + 1 + config.samplesPerCapture ⌈/⌉ limit) progress.world)
      fun halt progress => Acquisition.Underway left looks progress.world ∧
        halt.Misses CalibrationError.Expired clock config.acquisitionTimeout
          (config.samplesPerCapture ⌈/⌉ limit) looks := by
  intro progress holds
  have acquires := chunks.progress.acquire chunk
    (rfl : config.acquisitionOptions.cancelled = false) (Progress.ensures_onWorld activates) fits
  refine Ensures.mapError (acquires.weaken (fun _ => id) (fun _ _ => id) ?_) progress holds
  rintro (cause | _) after misses <;> exact misses

/-- Started with some work done, the step ends with other work done, if it gives a value. -/
abbrev Works (tally : Work → σ → Prop) (stopped : Halt CalibrationError → σ → Prop)
    (before : Work) (step : Step σ β) (after : Work) : Prop :=
  Ensures (fun progress => tally before progress.world) step
    (fun _ progress => tally after progress.world) fun halt progress =>
    stopped halt progress.world

/-- A tally of the captures and the balances that a rig is made to do. -/
structure Performs [Arithmetic α] (rig : Rig σ η α) (config : Config α) (stream : η)
    (tally : Work → σ → Prop) (stopped : Halt CalibrationError → σ → Prop) : Prop where
  issue : ∀ commands, (∀ command ∈ commands, command.refusable = false) → ∀ work,
    Works tally stopped work (issue rig commands) (work.write commands)
  capture : ∀ work, Works tally stopped work (capture rig config stream) work.capture
  now : ∀ work world, tally work world → tally work (rig.now world).2
  note : ∀ trial work world, tally work world → tally work (rig.note trial world)
  overflow : 2 ^ (64 : Nat) ≤ config.candidates → ∀ work world, tally work world →
    stopped .overflow world

variable {tally : Work → σ → Prop} {stopped : Halt CalibrationError → σ → Prop}
  {rig : Rig σ η α} {config : Config α} {stream : η}

section Kinds

variable [Scalar α]

/-- What every trial keeps of what was found, a search keeps. -/
private theorem known_tryGrids {attempt : β → TestPoint α → β → Step σ β} {known : β → Prop}
    (each : ∀ start point found, known found →
      Ensures (fun _ => True) (attempt start point found) (fun found _ => known found)
        fun _ _ => True)
    (grids : List Grid) {found : β} (start : known found) :
    Ensures (fun _ => True) (Descent.tryGrids attempt grids found) (fun found _ => known found)
      fun _ _ => True := by
  have trials : ∀ start point found, Ensures (fun _ => known found) (attempt start point found)
      (fun found _ => known found) fun _ _ => True :=
    fun start point found progress holds => each start point found holds progress trivial
  have searches : Ensures (fun _ => known found) (Descent.tryGrids attempt grids found)
      (fun found _ => known found) fun _ _ => True :=
    Descent.ensures_tryGrids trials (fun _ _ _ _ _ _ => trivial) found
  exact fun progress _ => searches progress start

/-- The receive search finds IQ balances. -/
theorem kind_searchReceive :
    Ensures (fun _ => True) (searchReceive rig config stream)
      (fun found _ => found.kind = .iqBalance) fun _ _ => True := by
  refine known_tryGrids (fun start point found kind => ?_) config.grids rfl
  unfold tryReceive
  refine (ensures_true _).bind fun _ => ?_
  refine (ensures_true _).bind fun _ => ?_
  refine (ensures_true _).bind fun _ => ?_
  exact ensures_pure _ fun _ _ => kind

/-- The transmit search finds IQ balances and offsets. -/
theorem kind_searchTransmit :
    Ensures (fun _ => True) (searchTransmit rig config stream)
      (fun found _ => found.iq.kind = .iqBalance ∧ found.dc.kind = .dcOffset) fun _ _ => True := by
  refine known_tryGrids (fun start point found kinds => ?_) config.grids ⟨rfl, rfl⟩
  unfold tryTransmit
  refine (ensures_true _).bind fun _ => ?_
  refine (ensures_true _).bind fun _ => ?_
  refine (ensures_true _).bind fun _ => ?_
  exact ensures_pure _ fun _ _ => kinds

end Kinds

theorem works_pure (value : β) (work : Work) :
    Works tally stopped work (Action.pure value : Step σ β) work :=
  ensures_pure value fun _ => id

theorem works_enter (stage : Stage) (work : Work) :
    Works tally stopped work (enter stage) work :=
  fun _ => id

theorem works_advance (work : Work) : Works tally stopped work advance work :=
  fun _ => id

namespace Performs

variable [Scalar α] (performs : Performs rig config stream tally stopped)

include performs

theorem clock (work : Work) : Works tally stopped work (Calibration.clock rig) work :=
  fun progress => performs.now work progress.world

theorem tell (trial : Trial α) (work : Work) :
    Works tally stopped work (Calibration.note rig trial) work :=
  fun progress => performs.note trial work progress.world

theorem adjustGain (work : Work) :
    Works tally stopped work (Calibration.adjustGain rig config stream) work.capture := by
  refine (performs.issue _ (of_decide_eq_true rfl) work).bind fun _ => ?_
  refine (performs.capture _).bind fun block => ?_
  refine (performs.issue _ (of_decide_eq_true rfl) _).bind fun _ => ?_
  exact works_pure _ _

theorem countCandidates (work : Work) :
    Ensures (fun progress => tally work progress.world) (Calibration.countCandidates config)
      (fun count progress => (count = config.candidates ∧ count < 2 ^ (64 : Nat)) ∧
        tally work progress.world)
      fun halt progress => stopped halt progress.world := by
  unfold Calibration.countCandidates
  split_ifs with few
  · exact ensures_pure _ fun _ tallied => ⟨⟨rfl, few⟩, tallied⟩
  · exact ensures_fail _ fun progress => performs.overflow (by omega) work progress.world

/-- A search whose trials each take a capture and write both balances. -/
private theorem tryGrids {attempt : β → TestPoint α → β → Step σ β}
    (each : ∀ start point found work,
      Works tally stopped work (attempt start point found) (work.search 1))
    (found : β) (work : Work) :
    Works tally stopped work (Descent.tryGrids attempt config.grids found)
      (work.search (config.grids.map Grid.size).sum) := by
  have trials : ∀ tried start point found,
      Works tally stopped (work.search tried) (attempt start point found)
        (work.search (tried + 1)) :=
    fun tried start point found => each start point found (work.search tried)
  have searches : Works tally stopped (work.search 0)
      (Descent.tryGrids attempt config.grids found)
      (work.search (0 + (config.grids.map Grid.size).sum)) := by
    refine Descent.ensures_tryGrids_counted trials ?_ 0 found
    intro grid member excess tried found progress
    apply performs.overflow
    by_contra few
    exact excess (Config.fits_of_candidates (by omega) member)
  rwa [Nat.zero_add] at searches

theorem searchReceive (work : Work) :
    Works tally stopped work (Calibration.searchReceive rig config stream)
      (work.search (config.grids.map Grid.size).sum) := by
  refine performs.tryGrids (fun start point found work => ?_) _ work
  refine (performs.issue _ (of_decide_eq_true rfl) work).bind fun _ => ?_
  refine (performs.capture _).bind fun block => ?_
  refine (performs.tell _ _).bind fun _ => ?_
  exact works_pure _ _

theorem searchTransmit (work : Work) :
    Works tally stopped work (Calibration.searchTransmit rig config stream)
      (work.search (config.grids.map Grid.size).sum) := by
  refine performs.tryGrids (fun start point found work => ?_) _ work
  refine (performs.issue _ (of_decide_eq_true rfl) work).bind fun _ => ?_
  refine (performs.capture _).bind fun block => ?_
  refine (performs.tell _ _).bind fun _ => ?_
  exact works_pure _ _

/-- **The work of a calibration.** A calibration that gives an outcome has taken five captures
and one for each candidate, and has written eight balances and two for each candidate. -/
theorem calibrate (frequency : α) (work : Work) :
    Ensures (fun progress => tally work progress.world)
      (Calibration.calibrate rig config frequency stream)
      (fun outcome progress => (outcome.candidates = config.candidates ∧
          outcome.candidates < 2 ^ (64 : Nat)) ∧
        tally (work.calibrate config) progress.world)
      fun halt progress => stopped halt progress.world := by
  unfold Calibration.calibrate
  refine (performs.clock work).bind fun started => ?_
  refine (works_enter .initial work).bind fun _ => ?_
  refine (performs.issue _ (of_decide_eq_true rfl) work).bind fun _ => ?_
  refine (works_advance _).bind fun _ => ?_
  refine (performs.adjustGain _).bind fun rxPgaGain => ?_
  refine (works_advance _).bind fun _ => ?_
  refine (performs.capture _).bind fun rxInitial => ?_
  refine (kind_searchReceive.known_and (performs.searchReceive _)).bind fun rxIq => ?_
  refine Ensures.of_and fun kind => ?_
  rw [SearchState.commands, kind]
  refine (performs.issue _ (of_decide_eq_true rfl) _).bind fun _ => ?_
  refine (performs.capture _).bind fun rxFinal => ?_
  refine (works_advance _).bind fun _ => ?_
  refine (performs.issue _ (of_decide_eq_true rfl) _).bind fun _ => ?_
  refine (performs.capture _).bind fun txInitial => ?_
  refine (kind_searchTransmit.known_and (performs.searchTransmit _)).bind fun tx => ?_
  refine Ensures.of_and fun kinds => ?_
  rw [SearchState.commands, SearchState.commands, kinds.1, kinds.2]
  refine (performs.issue _ (of_decide_eq_true rfl) _).bind fun _ => ?_
  refine (performs.issue _ (of_decide_eq_true rfl) _).bind fun _ => ?_
  refine (performs.capture _).bind fun txFinal => ?_
  refine (works_advance _).bind fun _ => ?_
  refine (performs.countCandidates _).bind fun candidates => ?_
  refine Ensures.of_and fun counted => ?_
  refine (performs.clock _).bind fun finished => ?_
  refine ensures_pure _ fun progress tallied => ⟨counted, ?_⟩
  refine Eq.mp (congrArg (fun work => tally work progress.world) ?_) tallied
  have tuning : (config.tuning frequency).countP Command.balances = 4 := rfl
  have receive (values : PerChannel (Phasor α)) :
      (writeCorrections .iqBalance .rx values).countP Command.balances = 2 := rfl
  have transmit (values : PerChannel (Phasor α)) :
      (writeCorrections .iqBalance .tx values).countP Command.balances = 2 := rfl
  have offsets (values : PerChannel (Phasor α)) :
      (writeCorrections .dcOffset .tx values).countP Command.balances = 0 := rfl
  have separation : config.separation.countP Command.balances = 0 := rfl
  have points := config.two_mul_sum_grids
  simp only [Work.calibrate, Work.write, Work.capture, Work.search, tuning, receive, transmit,
    offsets, separation, Work.mk.injEq]
  omega

end Performs

/-- **The work of a run.** The setup and the calls that open and close the stream neither take
captures nor write balances. -/
theorem works_run [Scalar α] {begun closed : Work → σ → Prop} (served : η → Prop)
    (frequency : α) (work : Work)
    (performs : ∀ stream, served stream → Performs rig config stream tally stopped)
    (sets : Works begun stopped work (issueDuring rig .initial config.setup) work)
    (opens : Ensures (begun work) (rig.openStream Channel.all)
      (fun stream world => served stream ∧ tally work world)
      fun cause => stopped (.error (.configuration .initial cause)))
    (closes : ∀ stream work, Ensures (tally work) (rig.closeStream stream)
      (fun _ => closed work) fun cause => stopped (.error (.configuration .done cause)))
    (abandons : ∀ stream halt, Ensures (stopped halt) (rig.closeStream stream)
      (fun _ => stopped halt) fun _ => stopped halt) :
    Ensures (fun progress => begun work progress.world) (run rig config frequency)
      (fun outcome progress => (outcome.candidates = config.candidates ∧
          outcome.candidates < 2 ^ (64 : Nat)) ∧
        closed (work.calibrate config) progress.world)
      fun halt progress => stopped halt progress.world := by
  unfold run
  refine sets.bind fun _ => ?_
  refine ensures_withStream (Progress.ensures_onWorld opens)
    (fun stream => Ensures.of_and fun serves => (performs stream serves).calibrate frequency work)
    (fun stream outcome => Ensures.of_and fun counted => ?_)
    fun stream halt => Progress.ensures_onWorld (abandons stream halt)
  exact (Progress.ensures_onWorld (closes stream _)).weaken (fun _ => id)
    (fun _ _ tallied => ⟨counted, tallied⟩) fun _ _ => id

end Calibration

section Journals

/-- The length of a burst that was started. -/
def Event.burst? : Event η α → Option Nat
  | .activated _ count (.ok _) => some count
  | _ => none

/-- The event writes an IQ balance. -/
def Event.balances : Event η α → Bool
  | .commanded command (.ok _) => command.balances
  | _ => false

/-- The events hold so many bursts of the length of a capture, and so many IQ balances. -/
structure Tallied (config : Config α) (work : Work) (events : List (Event η α)) : Prop where
  bursts : events.filterMap Event.burst? =
    List.replicate work.captures config.samplesPerCapture
  balances : events.countP Event.balances = work.balances

variable {config : Config α} {work : Work} {events later : List (Event η α)}

theorem Tallied.append (captures balances : Nat) (tallied : Tallied config work events)
    (bursts : later.filterMap Event.burst? = List.replicate captures config.samplesPerCapture)
    (counts : later.countP Event.balances = balances) :
    Tallied config ⟨work.captures + captures, work.balances + balances⟩ (events ++ later) where
  bursts := by rw [List.filterMap_append, tallied.bursts, bursts, List.replicate_append_replicate]
  balances := by rw [List.countP_append, tallied.balances, counts]

theorem countP_issued (commands : List (Command α)) :
    (Event.issued (η := η) commands).countP Event.balances =
      commands.countP Command.balances := by
  rw [Event.issued, List.countP_map]
  rfl

theorem filterMap_issued (commands : List (Command α)) :
    (Event.issued (η := η) commands).filterMap Event.burst? = [] := by
  simp [Event.issued, Event.burst?]

theorem Captures.bursts_eq [Arithmetic α] {stream : η} {requested : Nat}
    {block : SampleBlock α} (captures : Captures stream requested events block) :
    events.filterMap Event.burst? = [requested] := by
  obtain ⟨reads, rfl, only⟩ := captures.started
  have unstarted : reads.filterMap Event.burst? = [] := by
    refine List.filterMap_eq_nil_iff.mpr fun event member => ?_
    obtain ⟨rooms, wait, outcome, rfl⟩ := only event member
    rfl
  exact congrArg (requested :: ·) unstarted

theorem Captures.countP_eq [Arithmetic α] {stream : η} {requested : Nat}
    {block : SampleBlock α} (captures : Captures stream requested events block) :
    events.countP Event.balances = 0 := by
  rw [List.countP_eq_zero]
  intro event member
  rcases captures.serves event member with ⟨_, _, rfl⟩ | ⟨_, _, _, rfl⟩ <;> exact Bool.noConfusion

namespace Calibration

private theorem works_of_emits {action : Step (Journal σ η α) β} {after : Work}
    {success : β → List (Event η α) → Prop} {failure : List (Event η α) → Prop}
    (emits : Emits action success failure)
    (adds : ∀ past value emitted, Tallied config work past → success value emitted →
      Tallied config after (past ++ emitted)) :
    Works (fun work journal => Tallied config work journal.events) (fun _ _ => True) work action
      after := by
  have ensures : EnsuresLog (Tallied config work) action (fun _ => Tallied config after)
      fun _ => True :=
    emits.ensuresLog adds fun _ _ _ _ => trivial
  exact ensures

private theorem works_issueDuring (rig : Rig σ η α) (stage : Stage)
    (commands : List (Command α)) (work : Work) :
    Works (fun work journal => Tallied config work journal.events) (fun _ _ => True) work
      (issueDuring (Journal.rig rig) stage commands) (work.write commands) := by
  refine works_of_emits (emits_issueDuring stage commands) ?_
  rintro past _ _ tallied rfl
  exact tallied.append 0 _ (filterMap_issued commands) (countP_issued commands)

/-- A journal keeps a tally of the captures and balances. -/
theorem performs_journal [Arithmetic α] (rig : Rig σ η α) (config : Config α) (stream : η) :
    Performs (Journal.rig rig) config stream
      (fun work journal => Tallied config work journal.events) fun _ _ => True where
  issue commands _ work progress := works_issueDuring rig progress.stage commands work progress
  capture work := by
    refine works_of_emits (emits_capture config stream) ?_
    intro past block burst tallied captures
    exact tallied.append 1 0 captures.bursts_eq captures.countP_eq
  now work journal := id
  note trial work journal tallied := by
    have noted : (Journal.rig rig).note trial journal =
        ⟨rig.note trial journal.world, journal.events ++ [.tried trial]⟩ := rfl
    rw [noted]
    exact tallied.append 0 0 rfl rfl
  overflow _ _ _ _ := trivial

/-- A call that neither starts a burst nor writes a balance. -/
private theorem tallied_record {ε : Type} {event : Except ε β → Event η α}
    {action : Action σ ε β} (unstarted : ∀ result, (event result).burst? = none)
    (unwritten : ∀ result, (event result).balances = false) :
    Ensures (fun journal => Tallied config work journal.events) (Journal.record event action)
      (fun _ journal => Tallied config work journal.events) fun _ _ => True := by
  intro journal tallied
  unfold Journal.record
  rcases action journal.world with ⟨_ | value, world⟩
  · exact trivial
  · refine tallied.append 0 0 ?_ ?_
    · simp [unstarted]
    · simp [unwritten]

private theorem ensures_run_journal [Scalar α] (rig : Rig σ η α) (config : Config α)
    (frequency : α) :
    Ensures (fun progress => Tallied config ⟨0, 0⟩ progress.world.events)
      (run (Journal.rig rig) config frequency)
      (fun outcome progress => (outcome.candidates = config.candidates ∧
          outcome.candidates < 2 ^ (64 : Nat)) ∧
        Tallied config (Work.calibrate ⟨0, 0⟩ config) progress.world.events)
      fun _ _ => True :=
  works_run (fun _ => True) frequency ⟨0, 0⟩ (fun stream _ => performs_journal rig config stream)
    (works_issueDuring rig .initial config.setup ⟨0, 0⟩)
    ((tallied_record (fun _ => rfl) fun _ => rfl).weaken (fun _ => id)
      (fun _ _ tallied => ⟨trivial, tallied⟩) fun _ _ => id)
    (fun _ _ => tallied_record (fun _ => rfl) fun _ => rfl)
    fun _ _ _ _ => by split <;> trivial

/-- **The captures of a run.** A run that gives an outcome has taken five captures and one for
each candidate, and has written eight balances and two for each candidate, on any rig. -/
theorem tallied_ledger [Scalar α] (rig : Rig σ η α) {frequency : α} {progress after : Progress σ}
    {outcome : Outcome α} (succeeds : run rig config frequency progress = (.ok outcome, after)) :
    (outcome.candidates = config.candidates ∧ outcome.candidates < 2 ^ (64 : Nat)) ∧
      Tallied config (Work.calibrate ⟨0, 0⟩ config)
        ((ledger rig config frequency progress).map Entry.event) := by
  have ensures := ensures_run_journal rig config frequency
    ⟨progress.stage, .start progress.world⟩ ⟨rfl, rfl⟩
  rw [run_eq_ledgered] at succeeds
  rw [run_journal_eq_ledgered, congrArg Prod.fst succeeds] at ensures
  exact ensures

end Calibration

end Journals

end LoopbackCalibration
