import LoopbackCalibration.Bench.Script
import LoopbackCalibration.Proofs.Calibration.Course
import LoopbackCalibration.Proofs.Scalar.Real

/-! # Closed streams

A stream that was opened is closed exactly once. What may be called is told by a phase: a
stream can be opened only in the first phase, the calls of a stream and its close belong to
the phase in which it is held, and none of them to the last phase. The calls of a capture
session and those of a run pass through these phases, whatever fails
(`streams_closed_once`).
-/

namespace LoopbackCalibration

open Action

variable {σ τ η α ε β : Type}

namespace Event

/-- The stream that the call closed, or was to close. -/
def closed? : Event η α → Option η
  | .closed stream _ => some stream
  | _ => none

/-- The stream that a call was made with. -/
def stream? : Event η α → Option η
  | .activated stream _ _ => some stream
  | .read stream _ _ _ => some stream
  | .closed stream _ => some stream
  | _ => none

/-- The call opens a stream or is made with one. -/
def OnStream : Event η α → Prop
  | .commanded _ _ => False
  | .tried _ => False
  | _ => True

end Event

/-- The calls open at most one stream and close each stream exactly once. -/
structure ClosesOnce (events : List (Event η α)) : Prop where
  /-- The streams that are closed are those that were opened, as often and in this order. -/
  balanced : events.filterMap Event.closed? = events.filterMap Event.opened?
  single : (events.filterMap Event.opened?).length ≤ 1
  /-- A call that is made with a stream is made with the one that was opened before. -/
  own : ∀ past event future stream, events = past ++ event :: future →
    event.stream? = some stream → past.filterMap Event.opened? = [stream]
  /-- No stream is opened or called after a close. -/
  last : ∀ past stream outcome future, events = past ++ .closed stream outcome :: future →
    ∀ later ∈ future, ¬later.OnStream
  /-- No stream is opened or called after one could not be opened. -/
  unopened : ∀ past channels cause future,
    events = past ++ .opened channels (.error cause) :: future → ∀ later ∈ future, ¬later.OnStream

/-- How far a session has come. At the end no stream is held any more: one was, or it could not
be opened. -/
inductive Phase (η : Type) where
  | unopened
  | held (stream : η)
  | ended (stream? : Option η)

namespace Phase

/-- The stream that is held. -/
def held? : Phase η → Option η
  | .held stream => some stream
  | _ => none

/-- The streams that were opened so far. -/
def opened : Phase η → List η
  | .unopened => []
  | .held stream => [stream]
  | .ended stream? => stream?.toList

/-- The streams that were closed so far. -/
def closed : Phase η → List η
  | .unopened => []
  | .held _ => []
  | .ended stream? => stream?.toList

/-- The phases that a call is made in and leads to. -/
inductive Moves : Phase η → Event η α → Phase η → Prop
  | commanded (phase command outcome) : Moves phase (.commanded command outcome) phase
  | tried (phase trial) : Moves phase (.tried trial) phase
  | opened (channels stream) : Moves .unopened (.opened channels (.ok stream)) (.held stream)
  | refused (channels cause) : Moves .unopened (.opened channels (.error cause)) (.ended none)
  | activated (stream count outcome) :
      Moves (.held stream) (.activated stream count outcome) (.held stream)
  | read (stream rooms wait outcome) :
      Moves (.held stream) (.read stream rooms wait outcome) (.held stream)
  | closed (stream outcome) :
      Moves (.held stream) (.closed stream outcome) (.ended (some stream))

/-- Calls that lead from one phase to another, each made in a phase that allows it. -/
inductive Passes : Phase η → List (Event η α) → Phase η → Prop
  | nil (phase) : Passes phase [] phase
  | cons {first next last event events} :
      Moves first event next → Passes next events last → Passes first (event :: events) last

variable {first middle last : Phase η} {event : Event η α} {events more : List (Event η α)}

theorem Passes.append (begins : Passes first events middle) (continues : Passes middle more last) :
    Passes first (events ++ more) last := by
  induction begins with
  | nil => exact continues
  | cons moves _ ih => exact .cons moves (ih continues)

theorem Passes.concat (begins : Passes first events middle) (moves : Moves middle event last) :
    Passes first (events ++ [event]) last :=
  begins.append (.cons moves (.nil last))

theorem Passes.split {past future : List (Event η α)}
    (passes : Passes first (past ++ event :: future) last) :
    ∃ before after, Passes first past before ∧ Moves before event after ∧
      Passes after future last := by
  induction past generalizing first with
  | nil =>
      cases passes with
      | cons moves rest => exact ⟨first, _, .nil first, moves, rest⟩
  | cons earlier past ih =>
      cases passes with
      | cons moves rest =>
          obtain ⟨before, after, begins, here, ends⟩ := ih rest
          exact ⟨before, after, .cons moves begins, here, ends⟩

/-- Calls that need no other stream than the one that is held stay in the phase. -/
theorem passes_of_within {phase : Phase η} (within : ∀ event ∈ events, event.Within phase.held?) :
    Passes phase events phase := by
  induction events with
  | nil => exact .nil phase
  | cons event rest ih =>
      refine .cons ?_ (ih fun later member => within later (List.mem_cons_of_mem _ member))
      have here := within event List.mem_cons_self
      cases event with
      | commanded command outcome => exact .commanded phase command outcome
      | tried trial => exact .tried phase trial
      | activated stream count outcome =>
          cases phase <;> cases here
          exact .activated stream count outcome
      | read stream rooms wait outcome =>
          cases phase <;> cases here
          exact .read stream rooms wait outcome
      | opened | closed => exact here.elim

theorem Passes.opened_eq (passes : Passes first events last) :
    first.opened ++ events.filterMap Event.opened? = last.opened := by
  induction passes with
  | nil phase => exact List.append_nil _
  | cons moves _ ih =>
      rw [← ih]
      cases moves <;> rfl

theorem Passes.closed_eq (passes : Passes first events last) :
    first.closed ++ events.filterMap Event.closed? = last.closed := by
  induction passes with
  | nil phase => exact List.append_nil _
  | cons moves _ ih =>
      rw [← ih]
      cases moves <;> rfl

/-- Once a session is over, no stream is opened or called. -/
theorem Passes.not_onStream {stream? : Option η} (passes : Passes (.ended stream?) events last) :
    ∀ later ∈ events, ¬later.OnStream := by
  generalize ended : Phase.ended stream? = first at passes
  induction passes with
  | nil => exact fun _ member => nomatch member
  | cons moves _ ih =>
      cases ended
      cases moves with
      | commanded | tried => exact List.forall_mem_cons.mpr ⟨id, ih rfl⟩

/-- **Streams by phases.** Calls that pass from the first phase to one in which no stream is
held close each stream exactly once. -/
theorem Passes.closesOnce (passes : Passes .unopened events last)
    (released : last.closed = last.opened) : ClosesOnce events where
  balanced := passes.closed_eq.trans (released.trans passes.opened_eq.symm)
  single := by
    rw [show events.filterMap Event.opened? = last.opened from passes.opened_eq]
    rcases last with _ | _ | (_ | _) <;> simp [opened]
  own past event future stream split called := by
    subst split
    obtain ⟨before, after, begins, moves, -⟩ := passes.split
    refine begins.opened_eq.trans ?_
    cases moves with
    | activated | read | closed => cases called; rfl
    | commanded | tried | opened | refused => cases called
  last past stream outcome future split := by
    subst split
    obtain ⟨before, after, -, moves, ends⟩ := passes.split
    cases moves with
    | closed => exact ends.not_onStream
  unopened past channels cause future split := by
    subst split
    obtain ⟨before, after, -, moves, ends⟩ := passes.split
    cases moves with
    | refused => exact ends.not_onStream

end Phase

/-- The calls of a journal lead from the first phase to the given one. -/
def Journal.Reached (phase : Phase η) (journal : Journal σ η α) : Prop :=
  Phase.Passes .unopened journal.events phase

private theorem Journal.ensures_record {phase : Phase η} (next : Except ε β → Phase η)
    {event : Except ε β → Event η α} {action : Action σ ε β}
    (moves : ∀ outcome, Phase.Moves phase (event outcome) (next outcome)) :
    Ensures (Journal.Reached phase) (Journal.record event action)
      (fun value => Journal.Reached (next (.ok value)))
      fun cause => Journal.Reached (next (.error cause)) := by
  intro journal reached
  unfold Journal.record
  rcases action journal.world with ⟨_ | _, world⟩ <;> exact reached.concat (moves _)

/-- The phase after an attempt to open a stream. -/
private def Phase.ofOpening : Except DeviceError η → Phase η
  | .ok stream => .held stream
  | .error _ => .ended none

private theorem Phase.moves_opened (channels : List Channel) (outcome : Except DeviceError η) :
    Phase.Moves .unopened (Event.opened (α := α) channels outcome) (.ofOpening outcome) := by
  cases outcome with
  | error cause => exact .refused channels cause
  | ok stream => exact .opened channels stream

/-- The calls of a capture belong to the phase in which the stream is held. -/
private theorem Journal.serves (rig : Rig σ η α) (stream : η) :
    (Journal.rig rig).Serves stream (Journal.Reached (.held stream))
      fun _ => Journal.Reached (.held stream) where
  activate count := Journal.ensures_record (fun _ => .held stream) (.activated stream count)
  read rooms wait := by
    refine (Journal.ensures_record (fun _ => .held stream) (.read stream rooms wait)).weaken
      (fun _ => id) (fun _ _ => id) fun status after reached => ?_
    split_ifs
    · exact reached
    · exact fun _ => reached
  now _ := id

namespace CaptureSession

section Shadows

variable [Arithmetic α] {view : τ → σ} {shadow : Rig τ η α} {rig : Rig σ η α}

private theorem shadows_serve (shadows : shadow.Shadows view rig) (stream : η)
    (request : Request) (world : τ) :
    serve rig stream request (view world) =
      ((serve shadow stream request world).1, view (serve shadow stream request world).2) := by
  cases request with
  | acquire count options =>
      simp only [serve, Acquisition.shadows_acquire shadows stream count options world]
  | read rooms wait => simp only [serve, shadows.read stream rooms wait world]

private theorem shadows_serveAll (shadows : shadow.Shadows view rig) (stream : η)
    (requests : List Request) (world : τ) :
    serveAll rig stream requests (view world) =
      ((serveAll shadow stream requests world).1,
        view (serveAll shadow stream requests world).2) := by
  induction requests generalizing world with
  | nil => rfl
  | cons request rest ih =>
      simp only [serveAll, shadows_serve shadows stream request world, ih]

/-- A session on a rig that shadows another comes to the transcript of the session on it. -/
theorem shadows_run (shadows : shadow.Shadows view rig) (requests : List Request)
    (ending : Ending) (world : τ) :
    run rig requests ending (view world) =
      ((run shadow requests ending world).1, view (run shadow requests ending world).2) := by
  unfold run
  rw [shadows.openStream Channel.all world]
  rcases shadow.openStream Channel.all world with ⟨_ | stream, opened⟩
  · rfl
  · simp only [shadows_serveAll shadows stream requests opened,
      shadows.closeStream stream (serveAll shadow stream requests opened).2]

end Shadows

variable [Arithmetic α]

/-- What a session makes of the rig, first to last. -/
def journal (rig : Rig σ η α) (requests : List Request) (ending : Ending) (world : σ) :
    List (Event η α) :=
  (run (Journal.rig rig) requests ending (.start world)).2.events

/-- **A journal changes nothing.** The session behind a journal comes to the transcript of the
session itself and leaves the same device. -/
theorem run_eq_journaled (rig : Rig σ η α) (requests : List Request) (ending : Ending)
    (world : σ) :
    run rig requests ending world =
      ((run (Journal.rig rig) requests ending (.start world)).1,
        (run (Journal.rig rig) requests ending (.start world)).2.world) :=
  shadows_run (Journal.shadows_rig rig) requests ending (.start world)

variable {rig : Rig σ η α} {stream : η}

private theorem reached_serve (request : Request) {journal : Journal σ η α}
    (reached : journal.Reached (.held stream)) :
    (serve (Journal.rig rig) stream request journal).2.Reached (.held stream) := by
  cases request with
  | acquire count options =>
      have captured := (Journal.serves rig stream).acquire count options journal reached
      change (Acquisition.acquire (Journal.rig rig) stream count options journal).2.Reached _
      rcases outcome : Acquisition.acquire (Journal.rig rig) stream count options journal with
        ⟨(cause | _) | _, after⟩ <;> rw [outcome] at captured
      · exact captured.elim id And.right
      · exact captured
      · exact captured
  | read rooms wait => exact reached.concat (.read stream rooms wait _)

private theorem reached_serveAll (requests : List Request) {journal : Journal σ η α}
    (reached : journal.Reached (.held stream)) :
    (serveAll (Journal.rig rig) stream requests journal).2.Reached (.held stream) := by
  induction requests generalizing journal with
  | nil => exact reached
  | cons request rest ih => exact ih (reached_serve request reached)

private theorem closesOnce_journal (rig : Rig σ η α) (requests : List Request)
    (ending : Ending) (world : σ) : ClosesOnce (journal rig requests ending world) := by
  have opens : Ensures (Journal.Reached .unopened) ((Journal.rig rig).openStream Channel.all)
      (fun stream => Journal.Reached (.held stream)) fun _ => Journal.Reached (.ended none) :=
    Journal.ensures_record .ofOpening (Phase.moves_opened Channel.all)
  have reached := opens (.start world) (.nil .unopened)
  unfold journal run
  rcases outcome : (Journal.rig rig).openStream Channel.all (.start world) with
    ⟨_ | stream, opened⟩ <;> rw [outcome] at reached
  · exact reached.closesOnce rfl
  · have served : (serveAll (Journal.rig rig) stream requests opened).2.Reached (.held stream) :=
      reached_serveAll requests reached
    have closed : ((Journal.rig rig).closeStream stream
        (serveAll (Journal.rig rig) stream requests opened).2).2.Reached (.ended (some stream)) :=
      served.concat (.closed stream _)
    exact closed.closesOnce rfl

end CaptureSession

namespace Calibration

private theorem within_of_quiet {held : Option η} {entries : List (Entry η α)}
    (quiet : Quiet held entries) : ∀ event ∈ entries.map Entry.event, event.Within held := by
  rintro _ member
  obtain ⟨entry, place, rfl⟩ := List.mem_map.mp member
  exact (quiet entry place).1

private theorem within_of_breaks {held : Option η} {error : CalibrationError}
    {entries : List (Entry η α)} (breaks : Breaks held error entries) :
    ∀ event ∈ entries.map Entry.event, event.Within held := by
  obtain ⟨last, ⟨calls, rfl, quiet⟩, within, -⟩ := breaks
  rw [List.map_append]
  exact List.forall_mem_append.mpr
    ⟨within_of_quiet quiet, List.forall_mem_singleton.mpr within⟩

private theorem within_of_served {stream : η} {result : Except (Halt CalibrationError) (Outcome α)}
    {entries : List (Entry η α)} (served : Served stream result entries) :
    ∀ event ∈ entries.map Entry.event, event.Within (some stream) := by
  rcases result with (cause | _) | _
  · exact served.elim within_of_breaks fun quiet => within_of_quiet quiet.2
  · exact within_of_quiet served
  · exact within_of_quiet served

/-- A run of any course closes the stream that it opens. -/
theorem Course.closesOnce {entries : List (Entry η α)}
    {result : Except (Halt CalibrationError) (Outcome α)} (course : Course entries result) :
    ClosesOnce (entries.map Entry.event) := by
  cases course with
  | unset breaks =>
      have setup : Phase.Passes .unopened (entries.map Entry.event) .unopened :=
        Phase.passes_of_within (within_of_breaks breaks)
      exact setup.closesOnce rfl
  | @unopened setup cause quiet =>
      have passes : Phase.Passes .unopened (setup.map Entry.event) .unopened :=
        Phase.passes_of_within (within_of_quiet quiet)
      rw [List.map_append]
      exact (passes.concat (.refused Channel.all cause)).closesOnce rfl
  | @closed setup calls stream closing result quiet served =>
      have passes : Phase.Passes .unopened (setup.map Entry.event) .unopened :=
        Phase.passes_of_within (within_of_quiet quiet)
      have uses : Phase.Passes (.held stream) (calls.map Entry.event) (.held stream) :=
        Phase.passes_of_within (within_of_served served)
      simp only [List.map_append]
      exact (((passes.concat (.opened Channel.all stream)).append uses).concat
        (.closed stream closing)).closesOnce rfl

end Calibration

/-- **Closed streams.** Whatever fails, and whatever a session is used for, each stream that a
session or a run opens is closed exactly once with the handle that it was opened with, after
all other calls of it. -/
theorem streams_closed_once [Scalar α] (rig : Rig σ η α) :
    (∀ requests ending world, ClosesOnce (CaptureSession.journal rig requests ending world)) ∧
      ∀ config frequency progress,
        ClosesOnce ((Calibration.ledger rig config frequency progress).map Entry.event) :=
  ⟨CaptureSession.closesOnce_journal rig, fun config frequency progress =>
    (Calibration.run_course rig config frequency progress).closesOnce⟩

/-- A session that is abandoned closes its stream as well. -/
example : CaptureSession.journal (Scripted.rig {} : Rig Scripted Nat ℝ) [] .abandon (.start []) =
    [.opened Channel.all (.ok 7), .closed 7 (.ok ())] := by
  cbv

end LoopbackCalibration
