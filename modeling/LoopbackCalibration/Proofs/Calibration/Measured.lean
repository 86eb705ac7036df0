import LoopbackCalibration.Proofs.Calibration.Trials

/-! # Measured trials

A log is *sound* when each trial in it was measured: the corrections of the trial were
written, then one capture was taken, and this capture shows the levels of the trial
(`Measured`). A transmit trial is moreover made with given receive corrections in
place. A log stays sound when a measured trial is added, and when anything is added
that is not a trial.
-/

namespace LoopbackCalibration

variable {σ η α : Type} [Scalar α] {config : Config α} {stream : η}

/-- From the start of a burst to its end, a value is what was written last as a correction
of a channel, and its writing did not fail. -/
def Stands (kind : CorrectionKind) (direction : Direction) (channel : Channel)
    (before burst : List (Event η α)) (value : Phasor α) : Prop :=
  ∀ part, part <+: burst →
    lastWrite kind direction channel (before ++ part) = some (value, .ok ())

section Standing

variable {requested : Nat} {burst : List (Event η α)} {block : SampleBlock α}

/-- A capture writes no correction. -/
theorem Captures.stands (captures : Captures stream requested burst block)
    {kind : CorrectionKind} {direction : Direction} {channel : Channel} {value : Phasor α}
    {before : List (Event η α)}
    (written : lastWrite kind direction channel before = some (value, .ok ())) :
    Stands kind direction channel before burst value := by
  intro part initial
  rw [lastWrite_append_of_forall fun event member =>
    (captures.serves event (initial.subset member)).write?_eq_none, written]

/-- The corrections that a trial offers stand during its capture. -/
theorem Captures.stands_candidate (captures : Captures stream requested burst block)
    {search : Search} {channel : Channel} {trial : Trial α} {offer : Offer α}
    (offered : search.offer? channel trial = some offer) (before : List (Event η α)) :
    Stands search.kind search.direction channel (before ++ Event.issued trial.commands) burst
      offer.candidate := by
  apply captures.stands
  rw [lastWrite_append, lastWrite_issued_commands offered, Option.some_or]

end Standing

/-- A block shows the levels of a trial, each on its channel and at the frequency of its
search. -/
def Trial.Shows (config : Config α) (block : SampleBlock α) (trial : Trial α) : Prop :=
  ∀ search channel offer, Search.offer? search channel trial = some offer →
    offer.level =
      Tone.level (block.samples channel) ((search.probe config).get channel) config.sampleRate

/-- What happened last is that the corrections of the trial were written, without failure,
and that one capture was taken, which shows the levels of the trial. -/
def Measured (config : Config α) (stream : η) (past : List (Event η α)) (trial : Trial α) :
    Prop :=
  ∃ earlier burst block, past = earlier ++ Event.issued trial.commands ++ burst ∧
    Captures stream config.samplesPerCapture burst block ∧ trial.Shows config block

/-- The events of one trial: its corrections are written, one capture is taken that shows
its levels, and it is told of. -/
def Tries (config : Config α) (stream : η) (trial : Trial α) (emitted : List (Event η α)) :
    Prop :=
  ∃ burst block, emitted = Event.issued trial.commands ++ burst ++ [.tried trial] ∧
    Captures stream config.samplesPerCapture burst block ∧ trial.Shows config block

/-- Every trial of a log was measured, and every transmit trial with the given receive
corrections written last. -/
def Sound (config : Config α) (stream : η) (receive : Channel → Phasor α)
    (log : List (Event η α)) : Prop :=
  ∀ past trial future, log = past ++ .tried trial :: future →
    Measured config stream past trial ∧
      (trial.direction = .tx → ∀ channel,
        lastWrite .iqBalance .rx channel past = some (receive channel, .ok ()))

section Trying

variable {trial : Trial α} {emitted : List (Event η α)}

/-- One trial makes the offers of that trial. -/
theorem Tries.offers_eq (tries : Tries config stream trial emitted) (search : Search)
    (channel : Channel) :
    search.offers channel emitted = (search.offer? channel trial).toList := by
  obtain ⟨burst, block, rfl, captures, -⟩ := tries
  have untried := (untried_issued (η := η) trial.commands).append
    (untried_of_serves captures.serves)
  rw [Search.offers_append, untried.offers_eq_nil, List.nil_append]
  rcases offered : search.offer? channel trial with _ | offer <;>
    simp [Search.offers, Event.trial?, offered]

/-- The trials of one direction make no offers to the searches of the other. -/
theorem Tries.offers_append (tries : Tries config stream trial emitted) {search : Search}
    {channel : Channel} (other : trial.direction ≠ search.direction)
    {log : List (Event η α)} :
    search.offers channel (log ++ emitted) = search.offers channel log := by
  rw [Search.offers_append, tries.offers_eq]
  rcases offered : search.offer? channel trial with _ | offer
  · exact List.append_nil _
  · exact (other (Search.direction_of_offer? offered)).elim

/-- What a trial does before it is told of writes no correction of the other direction. -/
private theorem lastWrite_made {burst : List (Event η α)} {block : SampleBlock α}
    (captures : Captures stream config.samplesPerCapture burst block) {kind : CorrectionKind}
    {direction : Direction} {channel : Channel} (other : trial.direction ≠ direction)
    (past : List (Event η α)) :
    lastWrite kind direction channel (past ++ Event.issued trial.commands ++ burst) =
      lastWrite kind direction channel past := by
  rw [lastWrite_append_of_forall fun event served =>
      (captures.serves event served).write?_eq_none,
    lastWrite_append_of_forall fun event issued =>
      (Event.gives_of_mem_issued issued).write?_eq_none other]

theorem Tries.lastWrite_append (tries : Tries config stream trial emitted)
    {kind : CorrectionKind} {direction : Direction} {channel : Channel}
    (other : trial.direction ≠ direction) (past : List (Event η α)) :
    lastWrite kind direction channel (past ++ emitted) = lastWrite kind direction channel past := by
  obtain ⟨burst, block, rfl, captures, -⟩ := tries
  have told : ∀ event ∈ [Event.tried (η := η) trial],
      event.write? kind direction channel = none := by
    rintro event member
    rw [List.mem_singleton.mp member]
    rfl
  rw [← List.append_assoc, ← List.append_assoc, lastWrite_append_of_forall told,
    lastWrite_made captures other]

end Trying

section Soundness

variable {receive : Channel → Phasor α} {log : List (Event η α)}

theorem sound_nil : Sound config stream receive ([] : List (Event η α)) := by
  intro past trial future split
  simp at split

/-- A log stays sound by one more event, if that is not a trial or a measured one. -/
theorem Sound.concat (sound : Sound config stream receive log) {event : Event η α}
    (measured : ∀ trial, event = .tried trial → Measured config stream log trial ∧
      (trial.direction = .tx → ∀ channel,
        lastWrite .iqBalance .rx channel log = some (receive channel, .ok ()))) :
    Sound config stream receive (log ++ [event]) := by
  intro past trial future split
  rcases split_concat split with ⟨rfl, told⟩ | ⟨between, earlier⟩
  · exact measured trial told
  · exact sound past trial between earlier

theorem Sound.append (sound : Sound config stream receive log) {later : List (Event η α)}
    (untried : Untried later) : Sound config stream receive (log ++ later) := by
  induction later using List.reverseRecOn with
  | nil => rwa [List.append_nil]
  | append_singleton later last ih =>
      rw [← List.append_assoc]
      refine (ih fun event member => untried event (by simp [member])).concat ?_
      rintro trial rfl
      exact (untried.not_mem trial (by simp)).elim

/-- A log stays sound by one more trial. -/
theorem Sound.tries (sound : Sound config stream receive log) {trial : Trial α}
    {emitted : List (Event η α)} (tries : Tries config stream trial emitted)
    (received : trial.direction = .tx → ∀ channel,
      lastWrite .iqBalance .rx channel log = some (receive channel, .ok ())) :
    Sound config stream receive (log ++ emitted) := by
  obtain ⟨burst, block, rfl, captures, shows⟩ := tries
  rw [← List.append_assoc, ← List.append_assoc]
  apply ((sound.append (untried_issued _)).append (untried_of_serves captures.serves)).concat
  rintro _ ⟨⟩
  refine ⟨⟨log, burst, block, rfl, captures, shows⟩, fun transmits channel => ?_⟩
  have other : trial.direction ≠ .rx := by simp [transmits]
  rw [lastWrite_made captures other, received transmits channel]

end Soundness

end LoopbackCalibration
