import LoopbackCalibration.Proofs.Calibration.Rules
import LoopbackCalibration.Proofs.Calibration.Work
import LoopbackCalibration.Proofs.Simulator.Residue

/-! # Calibrations whose counts stay in range

The rules of a configuration set no upper bounds on the steps of a grid, on the samples of a
capture and on the time that a capture may take. Only together with such bounds
(`Config.InRange`) no count of a calibration leaves its range, and each of them is needed
(`Calibration.in_range_of_valid`).
-/

namespace LoopbackCalibration

open Action

variable {σ η α : Type}

/-- The counts of a calibration fit their words, if the clock shows no instant after the latest
one. -/
structure Config.InRange [Arithmetic α] (config : Config α) (latest : Nat) : Prop where
  candidates : config.candidates < 2 ^ (64 : Nat)
  samples : config.samplesPerCapture ≤ Acquisition.capacity
  deadline : latest + config.acquisitionTimeout.nanoseconds < Acquisition.horizon

/-- What a capture counts fits: its samples into a buffer, and its deadline onto the clock. -/
def Acquisition.InRange (requested : Nat) (timeout : Duration) (start : Nat) : Prop :=
  requested ≤ capacity ∧ start + timeout.nanoseconds < horizon

/-- A rig that does all that it is told, at one instant. -/
def Rig.obliging (instant : Nat) : Rig Unit Unit α where
  description _ := ""
  command _ := Action.pure ()
  openStream _ := Action.pure ()
  activate _ _ := Action.pure ()
  read _ rooms _ := Action.pure ⟨rooms.headD 0, []⟩
  closeStream _ := Action.pure ()
  now world := (instant, world)
  stopRequested _ := false
  patience _ room _ _ := room
  patience_lt _ _ _ _ _ _ positive _ whole := by
    cases whole
    exact Nat.sub_lt positive positive

/-- A valid configuration searches one depth at least, so all its grids are counted among the
candidates. -/
theorem Config.fits_of_valid [Arithmetic α] {config : Config α} (valid : config.isValid)
    (few : config.candidates < 2 ^ (64 : Nat)) (depth : Nat) : (config.grid depth).fits := by
  have ascending := (isValid_iff_obeys.mp valid).ascending
  have first : config.grid config.searchDepths.first ∈ config.grids := by
    refine List.mem_map_of_mem ?_
    simp only [DepthRange.toList, DepthRange.size, List.mem_range'_1]
    omega
  have fits : (config.grid config.searchDepths.first).fits := fits_of_candidates few first
  exact fits

namespace Calibration

variable {rig : Rig σ η α} {config : Config α} {stream : η}

/-- A capture overflows just if the samples or the deadline leave their range. -/
theorem acquire_overflow_iff [Arithmetic α] {requested : Nat} {options : AcquisitionOptions}
    {world started : σ} (activates : rig.activate stream requested world = (.ok (), started)) :
    (Acquisition.acquire rig stream requested options world).1 = .error .overflow ↔
      ¬Acquisition.InRange requested options.timeout (rig.now started).1 := by
  unfold Acquisition.acquire
  simp only [activates]
  split_ifs with large late
  · exact iff_of_true rfl fun inside => absurd inside.1 (Nat.not_le.mpr large)
  · exact iff_of_true rfl fun inside => absurd inside.2 (Nat.not_lt.mpr late)
  · refine iff_of_false ?_ (not_not_intro ⟨Nat.not_lt.mp large, Nat.not_le.mp late⟩)
    rcases Acquisition.collect rig stream options requested _ _ _ with ⟨_ | _, _⟩ <;> exact nofun

theorem ensures_acquire_in_range [Arithmetic α] {requested : Nat} {options : AcquisitionOptions}
    (inRange : ∀ world, Acquisition.InRange requested options.timeout (rig.now world).1) :
    Ensures (fun _ => True) (Acquisition.acquire rig stream requested options) (fun _ _ => True)
      fun halt _ => halt ≠ .overflow := by
  intro world _
  rcases activation : rig.activate stream requested world with ⟨cause | _, started⟩
  · simp only [Acquisition.acquire, activation]
    intro same
    cases same
  · have inside : (Acquisition.acquire rig stream requested options world).1 ≠ .error .overflow :=
      mt (acquire_overflow_iff activation).mp (not_not_intro (inRange started))
    rcases result : Acquisition.acquire rig stream requested options world with ⟨halt | _, after⟩
    · rw [result] at inside
      exact fun same => inside (congrArg Except.error same)
    · trivial

theorem ensures_acquire_out_of_range [Arithmetic α] {requested : Nat}
    {options : AcquisitionOptions}
    (activates : ∀ world, ∃ started, rig.activate stream requested world = (.ok (), started) ∧
      ¬Acquisition.InRange requested options.timeout (rig.now started).1) :
    Ensures (fun _ => True) (Acquisition.acquire rig stream requested options) (fun _ _ => False)
      fun halt _ => halt = .overflow := by
  intro world _
  obtain ⟨started, activation, outside⟩ := activates world
  have overflows := (acquire_overflow_iff activation).mpr outside
  rcases result : Acquisition.acquire rig stream requested options world with ⟨halt | _, after⟩ <;>
    rw [result] at overflows
  · exact Except.error.inj overflows
  · cases overflows

private theorem ensures_issue (before : σ → Prop) (stopped : Halt CalibrationError → σ → Prop)
    (command : ∀ command, Ensures before (rig.command command) (fun _ => before)
      fun cause world => ∀ stage, stopped (.error (.configuration stage cause)) world)
    (commands : List (Command α)) :
    Ensures (fun progress => before progress.world) (issue rig commands)
      (fun _ progress => before progress.world) fun halt progress => stopped halt progress.world :=
  fun progress => ensures_forEach (fun issued _ => Ensures.mapError
    ((Progress.ensures_onWorld (command issued)).weaken (fun _ => id) (fun _ _ => id)
      fun _ _ stops => stops progress.stage)) progress

/-- On no rig a calibration whose counts stay in range overflows. -/
theorem performs_in_range [Arithmetic α] {latest : Nat} (inRange : config.InRange latest)
    (bounded : ∀ world, (rig.now world).1 ≤ latest) (stream : η) :
    Performs rig config stream (fun _ _ => True) fun halt _ => halt ≠ .overflow where
  issue commands _ _ := by
    refine ensures_issue (fun _ => True) (fun halt _ => halt ≠ .overflow)
      (fun command world _ => ?_) commands
    rcases rig.command command world with ⟨cause | _, after⟩
    · exact fun _ => nofun
    · exact trivial
  capture _ progress := by
    have counts : ∀ progress, Acquisition.InRange config.samplesPerCapture
        config.acquisitionOptions.timeout ((Progress.rig rig).now progress).1 :=
      fun progress => ⟨inRange.samples, Nat.lt_of_le_of_lt
        (Nat.add_le_add_right (bounded progress.world) _) inRange.deadline⟩
    refine Ensures.mapError ((ensures_acquire_in_range counts).weaken
      (fun _ => id) (fun _ _ => id) ?_) progress
    rintro (cause | _) _ inside
    · exact nofun
    · exact (inside rfl).elim
  now _ _ := id
  note _ _ _ := id
  overflow many := absurd inRange.candidates (Nat.not_lt.mpr many)

theorem chunks_obliging (instant limit : Nat) :
    (Rig.obliging (α := α) instant).Chunks () limit (fun _ => instant)
      fun burst _ _ _ => burst ≤ limit where
  read burst _ _ _ _ := by
    intro _ within
    have brought : min burst burst = min limit burst := by omega
    exact ⟨brought, by omega⟩
  now _ _ _ _ within := ⟨rfl, within⟩
  stopRequested _ _ _ _ _ := rfl

section Obliging

variable [Arithmetic α] {latest : Nat}

/-- One read is enough, and at one instant no deadline elapses. -/
theorem ensures_capture_obliging (positive : 0 < config.samplesPerCapture)
    (patient : 0 < config.acquisitionTimeout.nanoseconds)
    (inRange : Acquisition.InRange config.samplesPerCapture config.acquisitionTimeout latest) :
    Ensures (fun _ => True) (capture (Rig.obliging latest) config ()) (fun _ _ => True)
      fun _ _ => False := by
  have activates : Ensures (fun _ => True)
      ((Rig.obliging (α := α) latest).activate () config.samplesPerCapture)
      (fun _ _ => config.samplesPerCapture ≤ config.samplesPerCapture) fun _ _ => False :=
    fun _ _ => Nat.le_refl _
  have captures := capture_of_chunks 0 0 (chunks_obliging latest config.samplesPerCapture)
    positive activates inRange.1
  refine captures.weaken (fun _ => id) (fun _ _ _ => trivial) ?_
  rintro (cause | _) _ ⟨-, misses⟩
  · obtain ⟨-, later, -, -, elapsed⟩ := misses
    exact absurd elapsed (Nat.not_le.mpr (Nat.lt_add_of_pos_right patient))
  · exact absurd inRange.2 (Nat.not_lt.mpr misses)

theorem ensures_capture_obliging_out_of_range
    (outside : ¬Acquisition.InRange config.samplesPerCapture config.acquisitionTimeout latest) :
    Ensures (fun _ => True) (capture (Rig.obliging latest) config ()) (fun _ _ => False)
      fun halt _ => halt = .overflow := by
  have overflows : Ensures (fun _ => True) (Acquisition.acquire
      (Progress.rig (Rig.obliging (α := α) latest)) () config.samplesPerCapture
      config.acquisitionOptions) (fun _ _ => False) fun halt _ => halt = .overflow :=
    ensures_acquire_out_of_range fun progress => ⟨progress, rfl, outside⟩
  intro progress
  refine Ensures.mapError (overflows.weaken (fun _ => id) (fun _ _ => False.elim) ?_) progress
  rintro _ _ rfl
  rfl

variable (latest) in
/-- On the obliging rig nothing but an overflow stops a calibration, and it has not taken any
capture unless captures stay in range. -/
theorem performs_obliging (positive : 0 < config.samplesPerCapture)
    (patient : 0 < config.acquisitionTimeout.nanoseconds) :
    Performs (Rig.obliging latest) config ()
      (fun work _ => work.captures = 0 ∨
        Acquisition.InRange config.samplesPerCapture config.acquisitionTimeout latest)
      fun halt _ => halt = .overflow where
  issue commands _ work := by
    refine ensures_issue (fun _ => work.captures = 0 ∨
      Acquisition.InRange config.samplesPerCapture config.acquisitionTimeout latest)
      (fun halt _ => halt = .overflow) (fun command world => ?_) commands
    exact id
  capture work := by
    by_cases inRange :
      Acquisition.InRange config.samplesPerCapture config.acquisitionTimeout latest
    · exact (ensures_capture_obliging positive patient inRange).weaken (fun _ _ => trivial)
        (fun _ _ _ => .inr inRange) fun _ _ => False.elim
    · exact (ensures_capture_obliging_out_of_range inRange).weaken (fun _ _ => trivial)
        (fun _ _ => False.elim) fun _ _ => id
  now _ _ := id
  note _ _ _ := id
  overflow _ _ _ _ := rfl

end Obliging

/-- **Validation alone does not keep a calibration in range.** With a valid configuration whose
counts stay in range, all points of every grid can be counted, and no rig whose clock shows
nothing after the latest instant makes a calibration overflow. If they do not stay in range, the
rig that does all that it is told makes every calibration overflow. -/
theorem in_range_of_valid [Scalar α] {config : Config α} (valid : config.isValid)
    (latest : Nat) :
    (config.InRange latest →
      (∀ depth ∈ config.searchDepths.toList, ∀ next,
        Grid.Cursor.remaining? ⟨config.grid depth, next⟩ =
          some ((config.grid depth).size - next)) ∧
      ∀ {σ η : Type} (rig : Rig σ η α), (∀ world, (rig.now world).1 ≤ latest) →
        ∀ frequency stream progress,
          (calibrate rig config frequency stream progress).1 ≠ .error .overflow) ∧
    (¬config.InRange latest → ∀ frequency progress,
      (calibrate (Rig.obliging latest) config frequency () progress).1 = .error .overflow) := by
  refine ⟨fun inRange => ⟨fun depth _ next => ?_, ?_⟩, ?_⟩
  · exact if_pos (Config.fits_of_valid valid inRange.candidates depth)
  · intro σ η rig bounded frequency stream progress overflows
    have performed := (performs_in_range inRange bounded stream).calibrate frequency ⟨0, 0⟩
    rcases result : calibrate rig config frequency stream progress with ⟨halt | outcome, after⟩ <;>
      rw [result] at overflows
    · exact performed.of_error trivial result (Except.error.inj overflows)
    · cases overflows
  · intro outside frequency progress
    have obeys := Config.isValid_iff_obeys.mp valid
    have positive : 0 < config.samplesPerCapture := obeys.samples
    have patient : 0 < config.acquisitionTimeout.nanoseconds :=
      Nat.pos_of_ne_zero (beq_eq_false_iff_ne.mp obeys.acquisitionTimeout)
    have performed := (performs_obliging latest positive patient).calibrate frequency ⟨0, 0⟩
    have idle : (⟨0, 0⟩ : Work).captures = 0 := rfl
    rcases result : calibrate (Rig.obliging latest) config frequency () progress with
      ⟨halt | outcome, after⟩
    · exact congrArg Except.error (performed.of_error (.inl idle) result)
    · obtain ⟨⟨candidates, few⟩, none | ⟨samples, deadline⟩⟩ := performed.of_ok (.inl idle) result
      · simp [Work.calibrate] at none
      · exact absurd ⟨candidates ▸ few, samples, deadline⟩ outside

/-- Decided without a comparison of what a computation gives. -/
instance decidableOverflows {ε β : Type} (result : Except (Halt ε) β) :
    Decidable (result = .error .overflow) :=
  match result with
  | .error .overflow => isTrue rfl
  | .error (.error _) => isFalse (by simp)
  | .ok _ => isFalse (by simp)

/-- A grid of so many steps has one point more than can be counted. -/
def wide : Config Float := { quick with stepsPerIter := 2 ^ (32 : Nat) }

theorem in_range_of_valid_quick :
    quick.isValid ∧ quick.InRange 0 ∧
      (∀ frequency progress,
        (calibrate (Rig.obliging 0) quick frequency () progress).1 ≠ .error .overflow) ∧
      wide.isValid ∧ ¬wide.InRange 0 ∧ ∀ frequency progress,
        (calibrate (Rig.obliging 0) wide frequency () progress).1 = .error .overflow := by
  have valid : quick.isValid := by decide +kernel
  have wideValid : wide.isValid := by decide +kernel
  have inRange : quick.InRange 0 := ⟨by decide, by decide, by decide⟩
  have outside : ¬wide.InRange 0 := fun inRange => absurd inRange.candidates (by decide)
  exact ⟨valid, inRange, fun frequency progress =>
      ((in_range_of_valid valid 0).1 inRange).2 _ (fun _ => Nat.le_refl 0) frequency () progress,
    wideValid, outside, (in_range_of_valid wideValid 0).2 outside⟩

/-- A valid configuration whose run stops, after the captures before the receive search, where
the search counts the points of its first grid. -/
theorem wide_overflows : wide.isValid ∧ ¬(wide.grid 2).fits ∧
    runSimulated wide 1000000000 (.resting 1000) (fun _ => false) .initial fresh =
      .error .overflow :=
  ⟨by decide +kernel, by decide +kernel, by decide +kernel⟩

end Calibration

end LoopbackCalibration
