import LoopbackCalibration.Proofs.Calibration.Conduct
import LoopbackCalibration.Proofs.Calibration.Ledger

/-! # The course of a run

A run gives its setup commands, opens a stream, makes all other calls while it holds the
stream, and closes it. Where a call fails the run leaves out what would come next, except
that it still closes a stream that it holds. `Calibration.Course` says so of the ledger of a
run together with its result, and every run takes such a course (`Calibration.run_course`).
-/

namespace LoopbackCalibration

open Action

variable {σ η α ε β : Type}

namespace Event

/-- The call was made and failed. A read that times out has not failed, since it is tried
again, and a close is not among these calls. -/
def Fails : Event η α → Prop
  | .commanded _ (.error _) => True
  | .opened _ (.error _) => True
  | .activated _ _ (.error _) => True
  | .read _ _ _ (.error status) => status.isTimeout = false
  | _ => False

/-- The event is a command, a trial, or a call that uses the stream that is held. -/
def Within (held : Option η) : Event η α → Prop
  | .commanded _ _ => True
  | .tried _ => True
  | .activated stream _ _ => held = some stream
  | .read stream _ _ _ => held = some stream
  | .opened _ _ => False
  | .closed _ _ => False

/-- The stream that the call opened, if it did. -/
def opened? : Event η α → Option η
  | .opened _ (.ok stream) => some stream
  | _ => none

end Event

/-- The error that a run makes of a call that fails. How many samples a capture has collected
before a read fails is not told by the read. -/
inductive Entry.Reported : Entry η α → CalibrationError → Prop
  | commanded (stage : Stage) (command : Command α) (cause : DeviceError) :
      Reported ⟨stage, .commanded command (.error cause)⟩ (.configuration stage cause)
  | opened (stage : Stage) (channels : List Channel) (cause : DeviceError) :
      Reported ⟨stage, .opened channels (.error cause)⟩ (.configuration stage cause)
  | activated (stage : Stage) (stream : η) (count : Nat) (cause : DeviceError) :
      Reported ⟨stage, .activated stream count (.error cause)⟩
        (.acquisition stage (.device cause))
  | read (stage : Stage) (stream : η) (rooms : List Nat) (wait : Duration) (status : StatusCode)
      (collected : Nat) (fatal : status.isTimeout = false) :
      Reported ⟨stage, .read stream rooms wait (.error status)⟩
        (.acquisition stage (.readStatus status collected))

namespace Calibration

/-- Nothing but calls of a run that holds a stream, or none, and none of them fails. -/
def Quiet (held : Option η) (entries : List (Entry η α)) : Prop :=
  ∀ entry ∈ entries, entry.event.Within held ∧ ¬entry.event.Fails

/-- The last call is the given one, and those before it are quiet. -/
def UpTo (held : Option η) (entry : Entry η α) (entries : List (Entry η α)) : Prop :=
  ∃ calls, entries = calls ++ [entry] ∧ Quiet held calls

/-- After calls that do not fail there is a last one that does, and the error is what the run
makes of it. -/
def Breaks (held : Option η) (error : CalibrationError) (entries : List (Entry η α)) : Prop :=
  ∃ entry, UpTo held entry entries ∧ entry.event.Within held ∧ entry.Reported error

/-- The result of a run whose calibration came to a result before the stream was closed. Only
after success does a failing close count. -/
def settle (result : Except (Halt CalibrationError) (Outcome α))
    (closing : Except DeviceError Unit) : Except (Halt CalibrationError) (Outcome α) :=
  match result, closing with
  | .ok _, .error cause => .error (.error (.configuration .done cause))
  | result, _ => result

/-- The calls made while a stream is held, and the result they lead to. -/
def Served (stream : η) (result : Except (Halt CalibrationError) (Outcome α))
    (calls : List (Entry η α)) : Prop :=
  match result with
  | .ok _ => Quiet (some stream) calls
  | .error halt =>
    halt.Leaves (Quiet (some stream)) (Breaks (some stream)) CalibrationError.GivesUp calls

/-- What a run makes of a rig and what it comes to: a command of the setup fails, or the stream
cannot be opened, or it is opened and in the end closed. -/
inductive Course : List (Entry η α) → Except (Halt CalibrationError) (Outcome α) → Prop
  | unset {setup : List (Entry η α)} {error : CalibrationError} (breaks : Breaks none error setup) :
      Course setup (.error (.error error))
  | unopened {setup : List (Entry η α)} (cause : DeviceError) (quiet : Quiet none setup) :
      Course (setup ++ [⟨.initial, .opened Channel.all (.error cause)⟩])
        (.error (.error (.configuration .initial cause)))
  | closed {setup calls : List (Entry η α)} (stream : η) (closing : Except DeviceError Unit)
      {result : Except (Halt CalibrationError) (Outcome α)} (quiet : Quiet none setup)
      (served : Served stream result calls) :
      Course (setup ++ [⟨.initial, .opened Channel.all (.ok stream)⟩] ++ calls ++
        [⟨.done, .closed stream closing⟩]) (settle result closing)

end Calibration

namespace Ledger

open Calibration

/-- The ledger holds some entries and after them new ones of the given kind. -/
def Since (base : List (Entry η α)) (kind : List (Entry η α) → Prop) (ledger : Ledger σ η α) :
    Prop :=
  ∃ entries, ledger.entries = base ++ entries ∧ kind entries

variable {base : List (Entry η α)} {held : Option η} {rig : Rig σ η α} {stage : Stage}

private theorem ensures_record {event : Except ε β → Event η α} {action : Action σ ε β} :
    Ensures (Since base (Quiet held)) (record stage event action)
      (fun value => Since base (UpTo held ⟨stage, event (.ok value)⟩))
      fun cause => Since base (UpTo held ⟨stage, event (.error cause)⟩) := by
  rintro ledger ⟨calls, grown, quiet⟩
  unfold record
  rcases action ledger.world with ⟨_ | _, world⟩ <;>
    exact ⟨_, by simp only [grown, List.append_assoc], calls, rfl, quiet⟩

private theorem quiet_of_upTo {entry : Entry η α} {ledger : Ledger σ η α}
    (upTo : Since base (UpTo held entry) ledger) (within : entry.event.Within held)
    (sound : ¬entry.event.Fails) : Since base (Quiet held) ledger := by
  obtain ⟨_, grown, calls, rfl, quiet⟩ := upTo
  refine ⟨_, grown, fun earlier member => ?_⟩
  rcases List.mem_append.mp member with before | last
  · exact quiet earlier before
  · cases List.mem_singleton.mp last
    exact ⟨within, sound⟩

private theorem breaks_of_upTo {entry : Entry η α} {error : CalibrationError}
    {ledger : Ledger σ η α} (upTo : Since base (UpTo held entry) ledger)
    (within : entry.event.Within held) (reported : entry.Reported error) :
    Since base (Breaks held error) ledger :=
  upTo.imp fun _ => And.imp_right fun last => ⟨entry, last, within, reported⟩

private theorem ensures_command (command : Command α) :
    Ensures (Since base (Quiet held)) ((Ledger.rig rig stage).command command)
      (fun _ => Since base (Quiet held))
      fun cause => Since base (Breaks held (.configuration stage cause)) :=
  ensures_record.weaken (fun _ => id) (fun _ _ upTo => quiet_of_upTo upTo trivial id)
    fun cause _ upTo => breaks_of_upTo upTo trivial (.commanded stage command cause)

private theorem conduct (rig : Rig σ η α) (base : List (Entry η α)) (stream : η) :
    Conduct (Ledger.rig rig) stream (Since base (Quiet (some stream)))
      fun error => Since base (Breaks (some stream) error) where
  command _ command := ensures_command command
  serves stage := {
    activate count := ensures_record.weaken (fun _ => id)
      (fun _ _ upTo => quiet_of_upTo upTo rfl id)
      fun cause _ upTo => breaks_of_upTo upTo rfl (.activated stage stream count cause)
    read rooms wait := by
      refine ensures_record.weaken (fun _ => id) (fun _ _ upTo => quiet_of_upTo upTo rfl id) ?_
      intro status ledger upTo
      split_ifs with retried
      · exact quiet_of_upTo upTo rfl fun fatal => Bool.noConfusion (retried.symm.trans fatal)
      · exact fun collected => breaks_of_upTo upTo rfl
          (.read stage stream rooms wait status collected (Bool.eq_false_iff.mpr retried))
    now ledger := id }
  note stage trial ledger := by
    rintro ⟨calls, grown, quiet⟩
    have upTo : Since base (UpTo (some stream) ⟨stage, .tried trial⟩)
        ((Ledger.rig rig stage).note trial ledger) :=
      ⟨_, by simp only [Ledger.rig, grown, List.append_assoc], calls, rfl, quiet⟩
    exact quiet_of_upTo upTo trivial id

private theorem leaves_since {quiet : List (Entry η α) → Prop}
    {breaks : CalibrationError → List (Entry η α) → Prop} {givesUp : CalibrationError → Prop}
    {halt : Halt CalibrationError} {ledger : Ledger σ η α}
    (leaves : halt.Leaves (Since base quiet) (fun error => Since base (breaks error)) givesUp
      ledger) : Since base (halt.Leaves quiet breaks givesUp) ledger := by
  cases halt with
  | error cause =>
      rcases leaves with ⟨entries, grown, broken⟩ | ⟨gaveUp, entries, grown, unbroken⟩
      · exact ⟨entries, grown, .inl broken⟩
      · exact ⟨entries, grown, .inr ⟨gaveUp, unbroken⟩⟩
  | overflow => exact leaves

end Ledger

namespace Calibration

/-- The ledger of a run that holds a stream: the setup, the opening, and the calls since then. -/
private def Holds (stream : η) (result : Except (Halt CalibrationError) (Outcome α))
    (ledger : Ledger σ η α) : Prop :=
  ∃ setup, Quiet none setup ∧
    ledger.Since (setup ++ [⟨.initial, .opened Channel.all (.ok stream)⟩]) (Served stream result)

private theorem ensures_closeStream (rig : Rig σ η α) (stream : η)
    (result : Except (Halt CalibrationError) (Outcome α)) :
    Ensures (Holds stream result) ((Ledger.rig rig .done).closeStream stream)
      (fun _ ledger => Course ledger.entries (settle result (.ok ())))
      fun cause ledger => Course ledger.entries (settle result (.error cause)) := by
  rintro ledger ⟨setup, quiet, calls, grown, served⟩
  have closes : (Ledger.rig rig .done).closeStream stream ledger =
      ((rig.closeStream stream ledger.world).1, ⟨(rig.closeStream stream ledger.world).2,
        ledger.entries ++ [⟨.done, .closed stream (rig.closeStream stream ledger.world).1⟩]⟩) := rfl
  rw [closes, grown]
  rcases (rig.closeStream stream ledger.world).1 with cause | _
  · exact .closed stream (.error cause) quiet served
  · exact .closed stream (.ok ()) quiet served

variable [Scalar α]

private theorem ensures_calibrateInStages (rig : Rig σ η α) (config : Config α) (frequency : α)
    (current : Stage) (stream : η) :
    Ensures (At current (Ledger.Since []
        (UpTo none ⟨.initial, .opened Channel.all (.ok stream)⟩)))
      (calibrateInStages (Ledger.rig rig) config frequency stream)
      (fun value progress => Holds stream (.ok value) progress.world)
      fun halt progress => Holds stream (.error halt) progress.world := by
  rintro progress ⟨rfl, _, grown, setup, rfl, quiet⟩
  have calibrates : Conducts _ _ progress.stage .done
      (calibrateInStages (Ledger.rig rig) config frequency stream) :=
    (Ledger.conduct rig (setup ++ [⟨.initial, .opened Channel.all (.ok stream)⟩])
      stream).calibrate frequency progress.stage
  refine calibrates.weaken (fun _ => id) (fun value after reached => ⟨setup, quiet, reached.2⟩)
    (fun halt after stops => ⟨setup, quiet, Ledger.leaves_since stops⟩) progress ⟨rfl, [], ?_, ?_⟩
  · rw [grown, List.nil_append, List.append_nil]
  · exact fun _ member => nomatch member

private theorem ensures_runInStages (rig : Rig σ η α) (config : Config α) (frequency : α)
    (current : Stage) :
    Ensures (At current (Ledger.Since [] (Quiet none)))
      (runInStages (Ledger.rig rig) config frequency)
      (fun value progress => Course progress.world.entries (.ok value))
      fun halt progress => Course progress.world.entries (.error halt) := by
  have uses := ensures_calibrateInStages rig config frequency current
  rw [calibrateInStages_eq_watched] at uses
  rw [runInStages_eq_watched]
  refine ensures_runWatched (fun command => ?_) ?_ uses
    (fun stream value => ensures_closeStream rig stream (.ok value))
    fun stream halt => ensures_closeStream rig stream (.error halt)
  · refine (Ledger.ensures_command command).weaken (fun _ => id) (fun _ _ => id) ?_
    rintro cause ledger ⟨setup, grown, breaks⟩
    rw [grown]
    exact .unset breaks
  · refine Ledger.ensures_record.weaken (fun _ => id) (fun _ _ => id) ?_
    rintro cause ledger ⟨_, grown, setup, rfl, quiet⟩
    rw [grown]
    exact .unopened cause quiet

/-- **The course of a run.** Every run takes one of the courses. -/
theorem run_course (rig : Rig σ η α) (config : Config α) (frequency : α)
    (progress : Progress σ) :
    Course (ledger rig config frequency progress) (run rig config frequency progress).1 := by
  have reached := ensures_runInStages rig config frequency progress.stage
    ⟨progress.stage, .start progress.world⟩ ⟨rfl, [], rfl, fun _ member => nomatch member⟩
  rw [run_eq_ledgered]
  unfold ledger ledgered
  rcases outcome : runInStages (Ledger.rig rig) config frequency _ with ⟨_ | _, after⟩ <;>
    rw [outcome] at reached <;> exact reached

end Calibration

end LoopbackCalibration
