import Mathlib.Tactic.SplitIfs
import LoopbackCalibration.Bench.Script
import LoopbackCalibration.Proofs.Acquisition.Replay
import LoopbackCalibration.Proofs.Scalar.Real

/-! # The course of a capture

The loop of a capture takes *turns*. Before each turn it looks at the stop request and
then at the clock; the turn itself reads both channels with room for exactly what is
missing. The turns of a capture chain its standings, from nothing held to the standing in
which it ends (`Acquisition.Plan.Course`, `Acquisition.Plan.Ends`), and nothing that they
bring is lost, repeated or moved (`Acquisition.acquire_course`).
-/

namespace LoopbackCalibration

namespace Acquisition

variable {σ η α : Type}

/-- A look at the clock and the read after it, which was given room for so many samples per
channel and allowed to wait for so long. -/
structure Turn (α : Type) where
  instant : Nat
  room : Nat
  wait : Duration
  outcome : Except StatusCode (Delivery α)

namespace Turn

/-- Samples per channel that a turn adds: as many as the device reports, up to the room. -/
def count (turn : Turn α) : Nat :=
  match turn.outcome with
  | .ok delivery => min delivery.count turn.room
  | .error _ => 0

/-- What the device delivered of them on a channel. -/
def samples (channel : Channel) (turn : Turn α) : List (Phasor α) :=
  match turn.outcome with
  | .ok delivery => ((delivery.buffers.getD channel.index #[]).extract 0 turn.count).toList
  | .error _ => []

/-- The device filled the slots that it reports, up to the room. -/
def Fills (turn : Turn α) : Prop :=
  ∀ delivery, turn.outcome = .ok delivery →
    ∀ channel : Channel, turn.count ≤ (delivery.buffers.getD channel.index #[]).size

/-- The read brought samples, possibly none, or timed out. -/
def GoesOn (turn : Turn α) : Prop :=
  ∀ status, turn.outcome = .error status → status.isTimeout

end Turn

/-- Samples per channel that turns add together. -/
def collected (turns : List (Turn α)) : Nat := (turns.map Turn.count).sum

/-- Where a capture stands between two turns: the samples that it holds per channel. -/
structure Standing (σ : Type) where
  held : Nat
  world : σ

/-- What a capture is to do once its burst has been started. -/
structure Plan (σ η α : Type) where
  rig : Rig σ η α
  stream : η
  options : AcquisitionOptions
  requested : Nat
  deadline : Nat

namespace Plan

/-- The capture was cancelled in advance, or the rig is told to stop. -/
def Stopped (plan : Plan σ η α) (world : σ) : Prop :=
  plan.options.cancelled ∨ plan.rig.stopRequested world

theorem stopped_iff {plan : Plan σ η α} {world : σ} :
    (plan.options.cancelled || plan.rig.stopRequested world) = true ↔ plan.Stopped world :=
  Bool.or_eq_true_iff

/-- A turn leads from one standing to the next. It is taken when samples are missing, no
stop is requested and the deadline is ahead, looked at in this order. It reads both
channels with room for exactly what is missing, and waits no longer than one read may and
than there is time. -/
structure Takes (plan : Plan σ η α) (before : Standing σ) (turn : Turn α)
    (after : Standing σ) : Prop where
  missing : before.held < plan.requested
  wanted : ¬plan.Stopped before.world
  instant_eq : turn.instant = (plan.rig.now before.world).1
  ahead : turn.instant < plan.deadline
  room_eq : turn.room = plan.requested - before.held
  wait_eq : turn.wait.nanoseconds =
    min plan.options.readTimeout.nanoseconds (plan.deadline - turn.instant)
  read_eq : plan.rig.read plan.stream [turn.room, turn.room] turn.wait
    (plan.rig.now before.world).2 = (turn.outcome, after.world)
  held_eq : after.held = before.held + turn.count

/-- The turns that lead from one standing to another. The capture goes on after each of them. -/
inductive Course (plan : Plan σ η α) : Standing σ → List (Turn α) → Standing σ → Prop where
  | nil (standing : Standing σ) : Course plan standing [] standing
  | cons {before between after : Standing σ} {turn : Turn α} {rest : List (Turn α)} :
      plan.Takes before turn between →
      turn.GoesOn →
      Course plan between rest after →
      Course plan before (turn :: rest) after

/-- How a capture ends from its last standing, and the world it leaves: complete, or with
an error that carries the samples held. -/
inductive Ends (plan : Plan σ η α) (last : Standing σ) :
    Option AcquisitionError → σ → Prop where
  | complete (enough : last.held = plan.requested) : Ends plan last none last.world
  | cancelled (missing : last.held < plan.requested) (stopped : plan.Stopped last.world) :
      Ends plan last (some (.cancelled last.held)) last.world
  | late (missing : last.held < plan.requested) (wanted : ¬plan.Stopped last.world)
      (elapsed : plan.deadline ≤ (plan.rig.now last.world).1) :
      Ends plan last (some (.timeout last.held plan.requested plan.options.timeout))
        (plan.rig.now last.world).2
  | failed {turn : Turn α} {after : Standing σ} {status : StatusCode}
      (takes : plan.Takes last turn after) (outcome : turn.outcome = .error status)
      (fatal : status.isTimeout = false) :
      Ends plan last (some (.readStatus status last.held)) after.world

variable {plan : Plan σ η α} {before after last : Standing σ} {turn : Turn α}
  {turns : List (Turn α)}

theorem Takes.held_le (takes : plan.Takes before turn after) :
    after.held ≤ plan.requested := by
  have room : turn.count ≤ turn.room := by
    unfold Turn.count
    split
    · exact Nat.min_le_right _ _
    · exact Nat.zero_le _
  have missing := takes.missing
  rw [takes.held_eq]
  rw [takes.room_eq] at room
  omega

theorem Course.held_eq (course : plan.Course before turns after) :
    after.held = before.held + collected turns := by
  induction course with
  | nil standing => rfl
  | cons takes _ _ ih =>
      rw [ih, takes.held_eq, collected, collected, List.map_cons, List.sum_cons, Nat.add_assoc]

theorem Course.held_le (course : plan.Course before turns after)
    (bounded : before.held ≤ plan.requested) : after.held ≤ plan.requested := by
  induction course with
  | nil standing => exact bounded
  | cons takes _ _ ih => exact ih takes.held_le

theorem Ends.eq_none_iff {failure : Option AcquisitionError} {world : σ}
    (ends : plan.Ends last failure world) : failure = none ↔ last.held = plan.requested := by
  cases ends with
  | complete enough => exact iff_of_true rfl enough
  | cancelled missing => exact iff_of_false nofun missing.ne
  | late missing => exact iff_of_false nofun missing.ne
  | failed takes => exact iff_of_false nofun takes.missing.ne

/-- The turn that is taken when samples are missing, no stop is requested and the deadline is
ahead, whatever its read comes to. -/
private theorem exists_takes (plan : Plan σ η α) {held instant : Nat}
    {world looked after : σ} {result : Except StatusCode (Delivery α)}
    (missing : held < plan.requested) (wanted : ¬plan.Stopped world)
    (look : plan.rig.now world = (instant, looked)) (ahead : instant < plan.deadline)
    (read : plan.rig.read plan.stream [plan.requested - held, plan.requested - held]
      ⟨min plan.options.readTimeout.nanoseconds (plan.deadline - instant)⟩ looked =
        (result, after)) :
    ∃ turn : Turn α, turn.outcome = result ∧ turn.room = plan.requested - held ∧
      plan.Takes ⟨held, world⟩ turn ⟨held + turn.count, after⟩ :=
  ⟨⟨instant, plan.requested - held, _, result⟩, rfl, rfl,
    missing, wanted, (congrArg Prod.fst look).symm, ahead, rfl, rfl,
    (congrArg (plan.rig.read _ _ _) (congrArg Prod.snd look)).trans read, rfl⟩

end Plan

/-- The samples that a capture holds at the end of its loop: those held at its start and
then what the turns delivered. -/
structure Gathers (raw : RawCapture α) (turns : List (Turn α)) (whole : RawCapture α) :
    Prop where
  size_eq : whole.size = raw.size + collected turns
  channels_eq : (∀ turn ∈ turns, turn.Fills) → ∀ channel,
    whole.channels.get channel =
      raw.channels.get channel ++ (turns.flatMap (Turn.samples channel)).toArray

private theorem gathers_nil (raw : RawCapture α) : Gathers raw [] raw where
  size_eq := rfl
  channels_eq _ _ := Array.append_empty.symm

private theorem Gathers.retry {turn : Turn α} {status : StatusCode} {raw whole : RawCapture α}
    {rest : List (Turn α)} (outcome : turn.outcome = .error status)
    (gathers : Gathers raw rest whole) : Gathers raw (turn :: rest) whole where
  size_eq := by
    rw [gathers.size_eq, collected, collected, List.map_cons, List.sum_cons, Turn.count, outcome,
      Nat.zero_add]
  channels_eq fills channel := by
    rw [gathers.channels_eq (fun later member => fills later (List.mem_cons_of_mem _ member)),
      List.flatMap_cons, Turn.samples, outcome, List.nil_append]

@[simp] private theorem size_empty : (RawCapture.empty : RawCapture α).size = 0 := rfl

variable [Arithmetic α]

private theorem get_append {turn : Turn α} {delivery : Delivery α} (raw : RawCapture α)
    (outcome : turn.outcome = .ok delivery) (fills : turn.Fills) (channel : Channel) :
    (raw.append delivery turn.count).channels.get channel =
      raw.channels.get channel ++ (turn.samples channel).toArray := by
  have written : (turn.samples channel).toArray =
      (delivery.buffers.getD channel.index #[]).extract 0 turn.count := by
    simp only [Turn.samples, outcome, Array.toArray_toList]
  have taken : delivery.taken channel.index turn.count = (turn.samples channel).toArray := by
    have enough := fills delivery outcome channel
    have nothing : turn.count - ((delivery.buffers.getD channel.index #[]).extract 0
        turn.count).size = 0 := by
      rw [Array.size_extract]
      omega
    rw [written, Delivery.taken]
    simp only [nothing, Array.replicate_zero, Array.append_empty]
  rw [← taken]
  cases channel <;> rfl

private theorem Gathers.deliver {turn : Turn α} {delivery : Delivery α}
    {raw whole : RawCapture α} {rest : List (Turn α)} (outcome : turn.outcome = .ok delivery)
    (gathers : Gathers (raw.append delivery turn.count) rest whole) :
    Gathers raw (turn :: rest) whole where
  size_eq := by
    rw [gathers.size_eq, RawCapture.size_append, collected, collected, List.map_cons,
      List.sum_cons, Nat.add_assoc]
  channels_eq fills channel := by
    rw [gathers.channels_eq (fun later member => fills later (List.mem_cons_of_mem _ member)),
      get_append raw outcome (fills turn List.mem_cons_self), List.flatMap_cons,
      ← List.append_toArray, Array.append_assoc]

/-- The loop follows a course to an end. Induction on the rounds of the loop. -/
theorem exists_course (plan : Plan σ η α) (raw : RawCapture α)
    (bounded : raw.size ≤ plan.requested) (world : σ) :
    ∃ turns last whole failure after,
      plan.Course ⟨raw.size, world⟩ turns last ∧ plan.Ends last failure after ∧
        Gathers raw turns whole ∧
        collect plan.rig plan.stream plan.options plan.requested plan.deadline raw world =
          (failure.elim (.ok whole) .error, after) := by
  fun_induction collect plan.rig plan.stream plan.options plan.requested plan.deadline raw world
    with
  | case1 raw world complete =>
      exact ⟨[], _, raw, none, world, .nil _, .complete (Nat.le_antisymm bounded complete),
        gathers_nil raw, rfl⟩
  | case2 raw world missing stopped =>
      exact ⟨[], _, raw, some _, world, .nil _, .cancelled (Nat.lt_of_not_le missing)
        (Plan.stopped_iff.mp stopped), gathers_nil raw, rfl⟩
  | case3 raw world missing wanted instant looked look late =>
      obtain ⟨rfl, rfl⟩ : (plan.rig.now world).1 = instant ∧ (plan.rig.now world).2 = looked :=
        Prod.ext_iff.mp look
      exact ⟨[], _, raw, some _, _, .nil _, .late (Nat.lt_of_not_le missing)
        (mt Plan.stopped_iff.mpr wanted) late, gathers_nil raw, rfl⟩
  | case4 raw world missing wanted instant looked look early room wait delivery after read ih =>
      obtain ⟨turn, outcome, same, takes⟩ := plan.exists_takes (Nat.lt_of_not_le missing)
        (mt Plan.stopped_iff.mpr wanted) look (Nat.lt_of_not_le early) read
      have count : turn.count = min delivery.count room := by rw [Turn.count, outcome, same]
      have goesOn : turn.GoesOn := by
        rintro _ failed
        cases outcome.symm.trans failed
      rw [← count] at ih ⊢
      obtain ⟨turns, last, whole, failure, final, course, ends, gathers, run⟩ :=
        ih (by rw [RawCapture.size_append]; exact takes.held_le)
      rw [RawCapture.size_append] at course
      exact ⟨turn :: turns, last, whole, failure, final, .cons takes goesOn course, ends,
        gathers.deliver outcome, run⟩
  | case5 raw world missing wanted instant looked look early room wait status after read again
      ih =>
      obtain ⟨turn, outcome, -, takes⟩ := plan.exists_takes (Nat.lt_of_not_le missing)
        (mt Plan.stopped_iff.mpr wanted) look (Nat.lt_of_not_le early) read
      have count : turn.count = 0 := by rw [Turn.count, outcome]
      have goesOn : turn.GoesOn := by
        rintro _ failed
        cases outcome.symm.trans failed
        exact again
      obtain ⟨turns, last, whole, failure, final, course, ends, gathers, run⟩ := ih bounded
      rw [count, Nat.add_zero] at takes
      exact ⟨turn :: turns, last, whole, failure, final, .cons takes goesOn course, ends,
        gathers.retry outcome, run⟩
  | case6 raw world missing wanted instant looked look early room wait status after read fatal =>
      obtain ⟨turn, outcome, -, takes⟩ := plan.exists_takes (Nat.lt_of_not_le missing)
        (mt Plan.stopped_iff.mpr wanted) look (Nat.lt_of_not_le early) read
      exact ⟨[], _, raw, some _, after, .nil _,
        .failed takes outcome (Bool.eq_false_of_not_eq_true fatal), gathers_nil raw, rfl⟩

/-- **Captures account for every sample.** When the burst cannot be started, that is the
error of the capture. Otherwise, unless a count leaves its range, the capture takes turns
that lead from nothing held to its end, whatever the clock shows at each of them. It never
holds more than was requested. It succeeds exactly when the turns, each counted up to the
room it was given, collect all that was requested; then both channels have that many
samples, and if the device filled the slots that it reported, they are the delivered
samples in the order of the turns, less their mean. -/
theorem acquire_course (rig : Rig σ η α) (stream : η) (requested : Nat)
    (options : AcquisitionOptions) (world : σ) :
    (∀ cause after, rig.activate stream requested world = (.error cause, after) →
      acquire rig stream requested options world = (.error (.error (.device cause)), after)) ∧
    ∀ started, rig.activate stream requested world = (.ok (), started) →
      let start := (rig.now started).1
      let plan : Plan σ η α :=
        ⟨rig, stream, options, requested, start + options.timeout.nanoseconds⟩
      (capacity < requested ∨ horizon ≤ plan.deadline →
        (acquire rig stream requested options world).1 = .error .overflow) ∧
      (requested ≤ capacity → plan.deadline < horizon →
        ∃ turns last failure after,
          plan.Course ⟨0, (rig.now started).2⟩ turns last ∧
          plan.Ends last failure after ∧
          last.held = collected turns ∧ collected turns ≤ requested ∧
          (acquire rig stream requested options world).2 = after ∧
          (∀ cause, failure = some cause →
            (acquire rig stream requested options world).1 = .error (.error cause)) ∧
          ((∃ block, (acquire rig stream requested options world).1 = .ok block) ↔
            collected turns = requested) ∧
          ∀ block, (acquire rig stream requested options world).1 = .ok block →
            ∀ channel, (block.samples channel).size = requested ∧
              ((∀ turn ∈ turns, turn.Fills) → block.samples channel =
                Samples.removeMean .stored
                  (turns.flatMap (Turn.samples channel)).toArray)) := by
  refine ⟨fun cause after refused => ?_, fun started activated => ⟨fun excess => ?_,
    fun fits early => ?_⟩⟩
  · simp only [acquire, refused]
  · simp only [acquire, activated]
    split_ifs with full late
    · rfl
    · rfl
    · exact (excess.elim full late).elim
  · obtain ⟨turns, last, whole, failure, after, course, ends, gathers, run⟩ :=
      exists_course ⟨rig, stream, options, requested,
        (rig.now started).1 + options.timeout.nanoseconds⟩ (.empty (α := α)) (Nat.zero_le _)
        (rig.now started).2
    have whole_size : whole.size = collected turns := gathers.size_eq.trans (Nat.zero_add _)
    have held : last.held = collected turns := course.held_eq.trans (Nat.zero_add _)
    have result : acquire rig stream requested options world =
        (failure.elim (.ok whole.block) (.error ∘ .error), after) := by
      simp only [acquire, activated, if_neg (Nat.not_lt.mpr fits), if_neg (Nat.not_le.mpr early),
        run]
      cases failure <;> rfl
    rw [result]
    refine ⟨turns, last, failure, after, course, ends, held, ?_, rfl, ?_, ?_, ?_⟩
    · exact held ▸ course.held_le (Nat.zero_le _)
    · rintro cause rfl
      rfl
    · rw [← held, ← ends.eq_none_iff]
      cases failure with
      | none => exact iff_of_true ⟨_, rfl⟩ rfl
      | some cause => exact iff_of_false (fun ⟨_, equal⟩ => nomatch equal) nofun
    · intro block success channel
      cases failure with
      | some cause => cases success
      | none =>
          cases success
          have samples : whole.block.samples channel =
              Samples.removeMean .stored (whole.channels.get channel) := PerChannel.get_map ..
          refine ⟨?_, fun fills => ?_⟩
          · have complete : whole.size = requested :=
              whole_size.trans (held.symm.trans (ends.eq_none_iff.mp rfl))
            rw [samples, Samples.size_removeMean]
            cases channel with
            | a => exact complete
            | b => exact whole.sameSize.symm.trans complete
          · rw [samples, gathers.channels_eq fills channel]
            cases channel <;> exact congrArg _ (Array.empty_append ..)

/-- Turns on a reel fill if the deliveries of its rounds do. -/
private theorem fills_of_reel {plan : Plan (Reel ℝ) Unit ℝ} (reel : plan.rig = Reel.rig)
    {before after : Standing (Reel ℝ)} {turns : List (Turn ℝ)}
    (course : plan.Course before turns after)
    (full : ∀ round ∈ before.world.rounds, ∀ delivery, round.outcome = .ok delivery →
      ∀ channel : Channel, delivery.count ≤ (delivery.buffers.getD channel.index #[]).size) :
    ∀ turn ∈ turns, turn.Fills := by
  induction course with
  | nil standing => exact List.forall_mem_nil _
  | @cons before between after turn rest takes _ _ ih =>
      have read := takes.read_eq
      rw [reel] at read
      obtain ⟨shown, rounds⟩ := Reel.shows_of_read read
      refine List.forall_mem_cons.mpr ⟨fun delivery outcome channel => ?_,
        ih fun round member => full round (rounds member)⟩
      obtain failed | ⟨round, member, same⟩ := shown
      · cases outcome.symm.trans failed
      · rw [Turn.count, outcome]
        exact (Nat.min_le_left _ _).trans (full round member delivery (same.trans outcome) channel)

private theorem size_delivery (cursor count : Nat) (channel : Channel) :
    ((Scripted.delivery (α := ℝ) cursor count [count, count]).buffers.getD channel.index
      #[]).size = count := by
  cases channel <;> simp [Scripted.delivery, Scripted.written, Channel.all, Channel.index]

/-- Three samples from a reel that brings two, times out and then brings five, all at the
instant at which the capture starts and a nanosecond before its deadline. -/
theorem acquire_course_scripted : ∃ turns block,
    (acquire Reel.rig () 3 { timeout := ⟨1⟩ }
        ⟨[⟨false, 0, .ok (Scripted.delivery 0 2 [2, 2])⟩, ⟨false, 0, .error .timeout⟩,
          ⟨false, 0, .ok (Scripted.delivery 2 5 [5, 5])⟩], 0⟩).1 = .ok block ∧
      collected turns = 3 ∧ ∀ channel, (block.samples channel).size = 3 ∧
        block.samples channel = Samples.removeMean (α := ℝ) .stored
          (turns.flatMap (Turn.samples channel)).toArray := by
  set reel : Reel ℝ :=
    ⟨[⟨false, 0, .ok (Scripted.delivery 0 2 [2, 2])⟩, ⟨false, 0, .error .timeout⟩,
      ⟨false, 0, .ok (Scripted.delivery 2 5 [5, 5])⟩], 0⟩
  have run : ∃ block, (acquire Reel.rig () 3 { timeout := ⟨1⟩ } reel).1 = .ok block := by
    obtain ⟨raw, replayed⟩ : ∃ raw,
        replay? { timeout := ⟨1⟩ } 3 1 reel.rounds .empty = some (.ok raw) := by
      simp [reel, replay?, Scripted.delivery, StatusCode.isTimeout]
    have read := collect_reel reel.clock replayed
    have activated : Reel.rig.activate () 3 reel = (.ok (), reel) := rfl
    have look : Reel.rig.now reel = (0, reel) := rfl
    rcases result : collect Reel.rig () { timeout := ⟨1⟩ } 3 1 .empty reel with ⟨held, after⟩
    obtain rfl : held = .ok raw := (congrArg Prod.fst result).symm.trans read
    exact ⟨raw.block, by simp [acquire, activated, look, capacity, horizon, result]⟩
  obtain ⟨block, success⟩ := run
  obtain ⟨turns, last, failure, after, course, -, -, -, -, -, complete, whole⟩ :=
    ((acquire_course Reel.rig () 3 { timeout := ⟨1⟩ } reel).2 _ rfl).2 (by decide) (by decide)
  refine ⟨turns, block, success, complete.mp ⟨block, success⟩, fun channel => ?_⟩
  obtain ⟨size, samples⟩ := whole block success channel
  refine ⟨size, samples (fills_of_reel rfl course ?_)⟩
  refine List.forall_mem_cons.mpr ⟨?_, List.forall_mem_cons.mpr ⟨?_,
    List.forall_mem_cons.mpr ⟨?_, List.forall_mem_nil _⟩⟩⟩
  · rintro _ ⟨⟩ channel
    exact (size_delivery 0 2 channel).ge
  · rintro _ ⟨⟩
  · rintro _ ⟨⟩ channel
    exact (size_delivery 2 5 channel).ge

end Acquisition

end LoopbackCalibration
