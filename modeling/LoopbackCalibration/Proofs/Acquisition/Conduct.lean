import LoopbackCalibration.Proofs.Acquisition.Course
import LoopbackCalibration.Proofs.Action.Ensures

/-! # What a capture does with failing calls

What a capture ensures is put together from what holds from call to call of it
(`Rig.Bursts.acquire`). A capture stops at the first of its calls that fails, a read that times
out excepted, and its error is the one that the call gave. If no call failed it stops because it
gives up or because a count leaves its range (`Rig.Serves.acquire`).
-/

namespace LoopbackCalibration

open Action

variable {σ η α ε : Type}

/-- The capture has given up although no call failed. -/
def AcquisitionError.GivesUp (error : AcquisitionError) : Prop :=
  error.isTimeout ∨ error.isCancelled

/-- The world in which a computation stops: `broken` if it was stopped by a call that
failed with its error, and `sound` if no call failed. -/
def Halt.Leaves (sound : σ → Prop) (broken : ε → σ → Prop) (givesUp : ε → Prop)
    (halt : Halt ε) (world : σ) : Prop :=
  match halt with
  | .error cause => broken cause world ∨ givesUp cause ∧ sound world
  | .overflow => sound world

/-- As long as no call of a burst fails the world is sound, and a call that fails leaves it
broken by the error that the capture makes of it. A read that times out has not failed. -/
structure Rig.Serves (rig : Rig σ η α) (stream : η) (sound : σ → Prop)
    (broken : AcquisitionError → σ → Prop) : Prop where
  activate : ∀ count, Ensures sound (rig.activate stream count) (fun _ => sound)
    fun cause => broken (.device cause)
  read : ∀ rooms wait, Ensures sound (rig.read stream rooms wait) (fun _ => sound)
    fun status world => if status.isTimeout then sound world else
      ∀ collected, broken (.readStatus status collected) world
  now : ∀ world, sound world → sound (rig.now world).2

/-- What holds from call to call of a capture, with the samples that are held per channel:
`holding` whenever the stop request is looked at, and `cleared` once no stop was requested and
the clock was looked at. -/
structure Rig.Bursts (rig : Rig σ η α) (stream : η) (requested : Nat)
    (options : AcquisitionOptions) (before : σ → Prop) (holding cleared : Nat → σ → Prop)
    (stopped : Halt AcquisitionError → σ → Prop) : Prop where
  activate : Ensures before (rig.activate stream requested) (fun _ => holding 0)
    fun cause => stopped (.error (.device cause))
  now : ∀ world, holding 0 world → holding 0 (rig.now world).2
  overflow : ∀ world, holding 0 world → stopped .overflow world
  cancelled : ∀ held world, held < requested → options.cancelled ∨ rig.stopRequested world →
    holding held world → stopped (.error (.cancelled held)) world
  clears : ∀ held world, held < requested → ¬(options.cancelled ∨ rig.stopRequested world) →
    holding held world → cleared held (rig.now world).2
  late : ∀ held world, cleared held world →
    stopped (.error (.timeout held requested options.timeout)) world
  read : ∀ held wait, held < requested →
    Ensures (cleared held) (rig.read stream [requested - held, requested - held] wait)
      (fun delivery => holding (held + min delivery.count (requested - held)))
      fun status world => if status.isTimeout then holding held world else
        stopped (.error (.readStatus status held)) world

namespace Acquisition

variable {before : σ → Prop} {holding cleared : Nat → σ → Prop}
  {stopped : Halt AcquisitionError → σ → Prop}

private theorem holding_of_course {plan : Plan σ η α}
    (bursts : plan.rig.Bursts plan.stream plan.requested plan.options before holding cleared
      stopped) {first last : Standing σ} {turns : List (Turn α)}
    (course : plan.Course first turns last) (start : holding first.held first.world) :
    holding last.held last.world := by
  induction course with
  | nil standing => exact start
  | @cons first between last turn rest takes goesOn _ ih =>
      apply ih
      have reached := bursts.read first.held turn.wait takes.missing _
        (bursts.clears _ _ takes.missing takes.wanted start)
      rw [← takes.room_eq, takes.read_eq] at reached
      rw [takes.held_eq, Turn.count]
      rcases outcome : turn.outcome with status | delivery <;> rw [outcome] at reached
      · exact (if_pos (goesOn status outcome)).mp reached
      · exact reached

private theorem stopped_of_ends {plan : Plan σ η α}
    (bursts : plan.rig.Bursts plan.stream plan.requested plan.options before holding cleared
      stopped) {last : Standing σ} {failure : Option AcquisitionError} {world : σ}
    (ends : plan.Ends last failure world) (start : holding last.held last.world) :
    match failure with
    | none => holding plan.requested world
    | some cause => stopped (.error cause) world := by
  cases ends with
  | complete enough => exact enough ▸ start
  | cancelled missing wanted => exact bursts.cancelled _ _ missing wanted start
  | late missing wanted => exact bursts.late _ _ (bursts.clears _ _ missing wanted start)
  | @failed turn after status takes outcome fatal =>
      have reached := bursts.read last.held turn.wait takes.missing _
        (bursts.clears _ _ takes.missing takes.wanted start)
      rw [← takes.room_eq, takes.read_eq, outcome] at reached
      exact (if_neg (Bool.eq_false_iff.mp fatal)).mp reached

end Acquisition

/-- **From call to call of a capture.** What holds from call to call holds in the end: all that
was requested is held, or the capture has stopped. -/
theorem Rig.Bursts.acquire [Arithmetic α] {rig : Rig σ η α} {stream : η} {requested : Nat}
    {options : AcquisitionOptions} {before : σ → Prop} {holding cleared : Nat → σ → Prop}
    {stopped : Halt AcquisitionError → σ → Prop}
    (bursts : rig.Bursts stream requested options before holding cleared stopped) :
    Ensures before (Acquisition.acquire rig stream requested options)
      (fun _ => holding requested) stopped := by
  intro world start
  have reached := bursts.activate world start
  unfold Acquisition.acquire
  rcases outcome : rig.activate stream requested world with ⟨cause | _, started⟩ <;>
    rw [outcome] at reached
  · exact reached
  · dsimp only
    split_ifs
    · exact bursts.overflow _ reached
    · exact bursts.overflow _ (bursts.now _ reached)
    · obtain ⟨turns, last, whole, failure, after, course, ends, -, run⟩ :=
        Acquisition.exists_course ⟨rig, stream, options, requested,
          (rig.now started).1 + options.timeout.nanoseconds⟩ (.empty (α := α)) (Nat.zero_le _)
          (rig.now started).2
      have left := Acquisition.stopped_of_ends bursts ends
        (Acquisition.holding_of_course bursts course (bursts.now _ reached))
      rw [run]
      cases failure <;> exact left

theorem Rig.Serves.bursts {rig : Rig σ η α} {stream : η} {sound : σ → Prop}
    {broken : AcquisitionError → σ → Prop} (serves : rig.Serves stream sound broken)
    (requested : Nat) (options : AcquisitionOptions) :
    rig.Bursts stream requested options sound (fun _ => sound) (fun _ => sound)
      (Halt.Leaves sound broken AcquisitionError.GivesUp) where
  activate := (serves.activate requested).weaken (fun _ => id) (fun _ _ => id)
    fun _ _ failed => .inl failed
  now := serves.now
  overflow _ := id
  cancelled _ _ _ _ holds := .inr ⟨.inr rfl, holds⟩
  clears _ _ _ _ := serves.now _
  late _ _ holds := .inr ⟨.inl rfl, holds⟩
  read held wait _ := by
    refine (serves.read _ wait).weaken (fun _ => id) (fun _ _ => id) fun status after read => ?_
    split_ifs at read ⊢
    · exact read
    · exact .inl (read held)

/-- **First failure of a capture.** Either no call fails, or the capture stops at the first
call that does and reports the error of that call. -/
theorem Rig.Serves.acquire [Arithmetic α] {rig : Rig σ η α} {stream : η} {sound : σ → Prop}
    {broken : AcquisitionError → σ → Prop} (serves : rig.Serves stream sound broken)
    (requested : Nat) (options : AcquisitionOptions) :
    Ensures sound (Acquisition.acquire rig stream requested options) (fun _ => sound)
      (Halt.Leaves sound broken AcquisitionError.GivesUp) :=
  (serves.bursts requested options).acquire

end LoopbackCalibration
