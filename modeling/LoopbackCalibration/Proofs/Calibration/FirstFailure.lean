import LoopbackCalibration.Bench.Script
import LoopbackCalibration.Proofs.Calibration.Course
import LoopbackCalibration.Proofs.Calibration.Gauge

/-! # The first failure of a run

A run stops at the first of its calls that fails. It reports the error of that call with the
stage of the call, and makes no call after it other than the close of a stream that it holds
(`Calibration.run_stops_at_failure`).
-/

namespace LoopbackCalibration

variable {σ η α : Type}

namespace Calibration

/-- What a run still does after a failure: nothing if no stream was opened before, and
otherwise a single close of a stream that was. -/
inductive Released (past : List (Entry η α)) : List (Entry η α) → Prop
  | unopened (never : ∀ entry ∈ past, entry.event.opened? = none) : Released past []
  | closed (stream : η) (outcome : Except DeviceError Unit)
      (opened : ∃ entry ∈ past, entry.event.opened? = some stream) :
      Released past [⟨.done, .closed stream outcome⟩]

/-- A run stops at an entry of its ledger, given the entries before and after it. -/
structure StopsAt (past : List (Entry η α)) (entry : Entry η α) (future : List (Entry η α))
    (result : Except (Halt CalibrationError) (Outcome α)) : Prop where
  first : ∀ earlier ∈ past, ¬earlier.event.Fails
  released : Released past future
  reported : ∃ error, result = .error (.error error) ∧ entry.Reported error

variable {setup calls past future : List (Entry η α)} {held : Option η}

theorem Quiet.not_fails (quiet : Quiet held calls) : ∀ entry ∈ calls, ¬entry.event.Fails :=
  fun entry member => (quiet entry member).2

theorem Quiet.opened?_eq_none (quiet : Quiet held calls) :
    ∀ entry ∈ calls, entry.event.opened? = none := by
  rintro ⟨stage, event⟩ member
  have within := (quiet _ member).1
  cases event with
  | opened _ outcome => exact within.elim
  | _ => rfl

private theorem exists_split {entry : Entry η α} {rest : List (Entry η α)}
    (sound : ∀ earlier ∈ calls, ¬earlier.event.Fails) (fails : entry.event.Fails)
    (split : calls ++ rest = past ++ entry :: future) :
    ∃ more, past = calls ++ more ∧ rest = more ++ entry :: future := by
  rcases List.append_eq_append_iff.mp split with ⟨more, before, after⟩ | ⟨more, before, after⟩
  · exact ⟨more, before, after⟩
  · cases more with
    | nil => exact ⟨[], by simp [before], by simpa using after.symm⟩
    | cons first more =>
        cases after
        exact absurd fails (sound entry (by simp [before]))

/-- The one failing call of a run comes right after the calls that do not fail. -/
private theorem split_at_failure {entry last : Entry η α} {rest : List (Entry η α)}
    (sound : ∀ earlier ∈ calls, ¬earlier.event.Fails)
    (after : ∀ later ∈ rest, ¬later.event.Fails) (fails : entry.event.Fails)
    (split : calls ++ last :: rest = past ++ entry :: future) :
    past = calls ∧ entry = last ∧ future = rest := by
  obtain ⟨more, rfl, shared⟩ := exists_split sound fails split
  cases more with
  | nil =>
      cases shared
      exact ⟨List.append_nil calls, rfl, rfl⟩
  | cons first more =>
      cases shared
      exact absurd fails (after entry (by simp))

private theorem not_fails_opened {stream : η} (begins : Quiet none setup)
    (quiet : Quiet held calls) :
    ∀ entry ∈ setup ++ [⟨.initial, .opened Channel.all (.ok stream)⟩] ++ calls,
      ¬entry.event.Fails := by
  intro entry member
  rcases List.mem_append.mp member with before | called
  · rcases List.mem_append.mp before with early | last
    · exact begins.not_fails entry early
    · cases List.mem_singleton.mp last
      exact id
  · exact quiet.not_fails entry called

theorem Course.stopsAt {entries : List (Entry η α)} {entry : Entry η α}
    {result : Except (Halt CalibrationError) (Outcome α)} (course : Course entries result)
    (split : entries = past ++ entry :: future) (fails : entry.event.Fails) :
    StopsAt past entry future result := by
  cases course with
  | unset breaks =>
      obtain ⟨last, ⟨calls, rfl, quiet⟩, -, reported⟩ := breaks
      obtain ⟨rfl, rfl, rfl⟩ := split_at_failure quiet.not_fails (by simp) fails split
      exact ⟨quiet.not_fails, .unopened quiet.opened?_eq_none, _, rfl, reported⟩
  | unopened cause quiet =>
      obtain ⟨rfl, rfl, rfl⟩ := split_at_failure quiet.not_fails (by simp) fails split
      exact ⟨quiet.not_fails, .unopened quiet.opened?_eq_none, _, rfl, .opened _ _ cause⟩
  | @closed setup calls stream closing result begins served =>
      -- a failing call is made while the stream is held, so not all calls made then are quiet
      have unfailing : ¬Quiet (some stream) calls := by
        intro quiet
        have among : entry ∈ setup ++ [⟨.initial, .opened Channel.all (.ok stream)⟩] ++ calls ++
            [⟨.done, .closed stream closing⟩] :=
          split ▸ List.mem_append_right _ List.mem_cons_self
        rcases List.mem_append.mp among with before | last
        · exact not_fails_opened begins quiet entry before fails
        · cases List.mem_singleton.mp last
          exact fails
      rcases result with (cause | _) | value
      · rcases served with ⟨last, ⟨calls, rfl, quiet⟩, -, reported⟩ | ⟨-, quiet⟩
        · have sound : ∀ earlier ∈ setup ++ [⟨.initial, .opened Channel.all (.ok stream)⟩] ++
              calls, ¬earlier.event.Fails := not_fails_opened begins quiet
          have place : setup ++ [⟨.initial, .opened Channel.all (.ok stream)⟩] ++ calls ++
              last :: [⟨.done, .closed stream closing⟩] = past ++ entry :: future := by
            rw [← split]
            simp
          obtain ⟨rfl, rfl, rfl⟩ := split_at_failure sound
            (List.forall_mem_singleton.mpr id) fails place
          have opened : ⟨.initial, .opened Channel.all (.ok stream)⟩ ∈
              setup ++ [⟨.initial, .opened Channel.all (.ok stream)⟩] ++ calls := by simp
          exact ⟨sound, .closed stream closing ⟨_, opened, rfl⟩, cause, rfl, reported⟩
        · exact (unfailing quiet).elim
      · exact (unfailing served).elim
      · exact (unfailing served).elim

/-- What an error of a run comes from. -/
theorem Course.origin {entries : List (Entry η α)} {error : CalibrationError}
    (course : Course entries (.error (.error error))) :
    error.GivesUp ∨ (∃ entry ∈ entries, entry.Reported error) ∨
      ∃ stream cause, ⟨.done, .closed stream (.error cause)⟩ ∈ entries ∧
        error = .configuration .done cause := by
  generalize result_eq : Except.error (Halt.error error) = result at course
  cases course with
  | unset breaks =>
      cases result_eq
      obtain ⟨last, ⟨calls, rfl, -⟩, -, reported⟩ := breaks
      exact .inr (.inl ⟨last, by simp, reported⟩)
  | unopened cause _ =>
      cases result_eq
      exact .inr (.inl ⟨_, List.mem_append_right _ (List.mem_singleton_self _),
        .opened _ _ cause⟩)
  | @closed setup calls stream closing result _ served =>
      rcases result with (cause | _) | value
      · cases result_eq
        rcases served with ⟨last, ⟨calls, rfl, -⟩, -, reported⟩ | ⟨gaveUp, -⟩
        · exact .inr (.inl ⟨last, by simp, reported⟩)
        · exact .inl gaveUp
      · cases result_eq
      · rcases closing with cause | _
        · cases result_eq
          exact .inr (.inr ⟨stream, cause, by simp, rfl⟩)
        · cases result_eq

variable [Scalar α]

/-- **First failure of a run.** A call that fails is the first that does, nothing follows it but
the close of a stream that was opened, and the run reports its error, whatever comes of the
close. A close that fails after a calibration that came to an outcome is reported for the last
stage. An error that none of the calls gave is a capture's that ran out of time or was
cancelled. -/
theorem run_stops_at_failure (rig : Rig σ η α) (config : Config α) (frequency : α)
    (progress : Progress σ) :
    (∀ past entry future, ledger rig config frequency progress = past ++ entry :: future →
      entry.event.Fails → StopsAt past entry future (run rig config frequency progress).1) ∧
    (∀ ready stream opened outcome finished cause closed,
      issueDuring rig .initial config.setup progress = (.ok (), ready) →
      (Progress.rig rig).openStream Channel.all ready = (.ok stream, opened) →
      calibrate rig config frequency stream opened = (.ok outcome, finished) →
      (Progress.rig rig).closeStream stream finished = (.error cause, closed) →
      run rig config frequency progress =
        (.error (.error (.configuration .done cause)), closed)) ∧
    ∀ error, (run rig config frequency progress).1 = .error (.error error) →
      error.GivesUp ∨ (∃ entry ∈ ledger rig config frequency progress, entry.Reported error) ∨
        ∃ stream cause,
          ⟨.done, .closed stream (.error cause)⟩ ∈ ledger rig config frequency progress ∧
            error = .configuration .done cause := by
  have course := run_course rig config frequency progress
  refine ⟨fun _ _ _ => course.stopsAt, ?_, fun error failed => (failed ▸ course).origin⟩
  intro ready stream opened outcome finished cause closed sets opens calibrates closes
  unfold run
  rw [Action.bind_ok sets]
  simp only [withStream, opens, calibrates, closes]

noncomputable section Refusals

open Action

/-- The error of a refused call. -/
def refusal : DeviceError := .stream "refused"

/-- A scripted device that starts no burst and refuses to close. -/
def refusing : Rig Scripted Nat α :=
  Scripted.rig { onActivate := some refusal, onClose := some refusal }

/-- The gauge, but it refuses to close its stream. -/
def refusingGauge : Rig (Hosted (PerChannel (Phasor ℝ))) Unit ℝ :=
  { Gauge.rig .zero with closeStream := fun _ => fail refusal }

private theorem reliable_refusingGauge :
    refusingGauge.Reliable (fun world => world.clock = 0 ∧ world.stopRequested = false) 2 where
  command _ _ := id
  activate _ _ _ := id
  read _ _ _ _ within _ idle := ⟨within, idle⟩
  now _ idle := ⟨idle.1, idle⟩
  stopRequested world idle := by
    change (world.stopRequested || false) = false
    rw [idle.2, Bool.or_self]
  note _ _ := id

private theorem exists_ledger_refusing : ∃ past,
    ledger (refusing (α := α)) .standard 0 (.start (.start [])) =
      past ++ [⟨.rxGainAdjust, .activated 7 8192 (.error refusal)⟩,
        ⟨.done, .closed 7 (.error refusal)⟩] := by
  refine ⟨_, (List.take_append_drop 44 _).symm.trans (congrArg _ ?_)⟩
  cbv

/-- The burst of the gain adjustment is refused and the stream closed, which is refused as
well. With the gauge only the close is refused. -/
theorem run_stops_at_failure_refusing :
    (∃ past, ledger (refusing (α := ℝ)) .standard 0 (.start (.start [])) =
        past ++ [⟨.rxGainAdjust, .activated 7 8192 (.error refusal)⟩,
          ⟨.done, .closed 7 (.error refusal)⟩]) ∧
      (run (refusing (α := ℝ)) .standard 0 (.start (.start []))).1 =
        .error (.error (.acquisition .rxGainAdjust (.device refusal))) ∧
      (run refusingGauge Gauge.config Config.parkingFrequency Gauge.start).1 =
        .error (.error (.configuration .done refusal)) := by
  refine ⟨exists_ledger_refusing, ?_, ?_⟩
  · obtain ⟨past, split⟩ := exists_ledger_refusing (α := ℝ)
    have stops := (run_stops_at_failure refusing .standard 0 (.start (.start []))).1 past _ _
      split trivial
    obtain ⟨error, result, reported⟩ := stops.reported
    cases reported
    exact result
  · obtain ⟨ready, sets, idle⟩ := exists_ready reliable_refusingGauge Gauge.config.setup
      Gauge.start ⟨rfl, rfl⟩
    obtain ⟨outcome, finished, calibrates, -⟩ := exists_outcome reliable_refusingGauge
      Gauge.fits Config.parkingFrequency () idle
    rw [(run_stops_at_failure refusingGauge Gauge.config Config.parkingFrequency
      Gauge.start).2.1 ready () ready outcome finished refusal finished sets rfl calibrates rfl]

end Refusals

end Calibration

end LoopbackCalibration
