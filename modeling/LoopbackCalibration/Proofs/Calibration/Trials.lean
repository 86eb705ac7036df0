import LoopbackCalibration.Proofs.Calibration.Emission
import LoopbackCalibration.Proofs.Search.Reference

/-! # Trials in a log

A calibration makes three searches. Each of them is offered, on each channel, one
correction and one level of every trial of its direction (`Search.offers`). A trial is
*measured* in a log when right before it its corrections were written and then one
capture was taken that shows its levels (`Measured`).
-/

namespace LoopbackCalibration

variable {σ η α : Type}

/-- The searches of a calibration. The transmit searches share their trials. -/
inductive Search where
  /-- For the receive IQ correction. -/
  | receiveIq
  /-- For the transmit IQ correction. -/
  | transmitIq
  /-- For the transmit offset correction. -/
  | transmitDc
  deriving Repr, DecidableEq

/-- The direction of the corrections that a trial writes. -/
def Trial.direction : Trial α → Direction
  | .receive .. => .rx
  | .transmit .. => .tx

/-- The commands that write the corrections of a trial. -/
def Trial.commands : Trial α → List (Command α)
  | .receive iq _ => writeCorrections .iqBalance .rx iq
  | .transmit iq dc _ _ => writeTransmit iq dc

/-- The trial that an event tells of. -/
def Event.trial? : Event η α → Option (Trial α)
  | .tried trial => some trial
  | _ => none

/-- What an event writes as the correction of a channel, and with which outcome. -/
def Event.write? (kind : CorrectionKind) (direction : Direction) (channel : Channel) :
    Event η α → Option (Phasor α × Except DeviceError Unit)
  | .commanded (.iqBalance direction' channel' value) outcome =>
    if kind = .iqBalance ∧ direction' = direction ∧ channel' = channel then
      some (value, outcome)
    else
      none
  | .commanded (.dcOffset direction' channel' value) outcome =>
    if kind = .dcOffset ∧ direction' = direction ∧ channel' = channel then
      some (value, outcome)
    else
      none
  | _ => none

/-- What was written last as the correction of a channel, and with which outcome. -/
def lastWrite (kind : CorrectionKind) (direction : Direction) (channel : Channel)
    (events : List (Event η α)) : Option (Phasor α × Except DeviceError Unit) :=
  (events.filterMap (Event.write? kind direction channel)).getLast?

namespace Search

/-- The kind of correction searched for. -/
def kind : Search → CorrectionKind
  | .receiveIq | .transmitIq => .iqBalance
  | .transmitDc => .dcOffset

/-- The direction that the correction applies to. -/
def direction : Search → Direction
  | .receiveIq => .rx
  | .transmitIq | .transmitDc => .tx

theorem eq_of_kind_of_direction {first second : Search} (kind : first.kind = second.kind)
    (direction : first.direction = second.direction) : first = second := by
  cases first <;> cases second <;> cases kind <;> cases direction <;> rfl

/-- The frequency at which a search measures each channel. -/
def probe [Arithmetic α] (config : Config α) : Search → PerChannel α
  | .receiveIq => .both config.rxImage
  | .transmitIq => config.txImage
  | .transmitDc => .both config.txDelta

/-- What a calibration reports for a search. -/
def result (outcome : Outcome α) : Search → CorrectionResult α
  | .receiveIq => outcome.rxIq
  | .transmitIq => outcome.txIq
  | .transmitDc => outcome.txDc

/-- What a trial offers to a search on one channel. -/
def offer? (search : Search) (channel : Channel) (trial : Trial α) : Option (Offer α) :=
  match search, trial with
  | .receiveIq, .receive iq images => some ⟨iq.get channel, images.get channel⟩
  | .transmitIq, .transmit iq _ images _ => some ⟨iq.get channel, images.get channel⟩
  | .transmitDc, .transmit _ dc _ leakages => some ⟨dc.get channel, leakages.get channel⟩
  | _, _ => none

/-- What the trials of a log offer to a search on one channel, first to last. -/
def offers (search : Search) (channel : Channel) (events : List (Event η α)) : List (Offer α) :=
  (events.filterMap Event.trial?).filterMap (search.offer? channel)

theorem offers_append (search : Search) (channel : Channel) (earlier later : List (Event η α)) :
    search.offers channel (earlier ++ later) =
      search.offers channel earlier ++ search.offers channel later := by
  rw [offers, List.filterMap_append, List.filterMap_append]
  rfl

/-- A trial is offered to the searches of its own direction only. -/
theorem direction_of_offer? {search : Search} {channel : Channel} {trial : Trial α}
    {offer : Offer α} (offered : search.offer? channel trial = some offer) :
    trial.direction = search.direction := by
  cases search <;> cases trial <;> first | rfl | cases offered

/-- An offer was made by a trial of the log. -/
theorem exists_trial_of_mem_offers {search : Search} {channel : Channel}
    {events : List (Event η α)} {offer : Offer α}
    (member : offer ∈ search.offers channel events) :
    ∃ past trial future, events = past ++ .tried trial :: future ∧
      search.offer? channel trial = some offer := by
  obtain ⟨trial, listed, offered⟩ := List.mem_filterMap.mp member
  obtain ⟨event, present, told⟩ := List.mem_filterMap.mp listed
  obtain rfl : event = .tried trial := by
    cases event <;> cases told
    rfl
  obtain ⟨past, future, split⟩ := List.append_of_mem present
  exact ⟨past, trial, future, split, offered⟩

end Search

section Writes

variable {kind : CorrectionKind} {direction : Direction} {channel : Channel}

theorem lastWrite_append (earlier later : List (Event η α)) :
    lastWrite kind direction channel (earlier ++ later) =
      (lastWrite kind direction channel later).or (lastWrite kind direction channel earlier) := by
  rw [lastWrite, List.filterMap_append, List.getLast?_append]
  rfl

/-- Events that write no such correction leave the last one standing. -/
theorem lastWrite_append_of_forall {earlier later : List (Event η α)}
    (silent : ∀ event ∈ later, event.write? kind direction channel = none) :
    lastWrite kind direction channel (earlier ++ later) =
      lastWrite kind direction channel earlier := by
  rw [lastWrite_append, lastWrite, List.filterMap_eq_nil_iff.mpr silent]
  rfl

theorem lastWrite_issued_writeCorrections (values : PerChannel (Phasor α)) :
    lastWrite (η := η) kind direction channel
        (Event.issued (writeCorrections kind direction values)) =
      some (values.get channel, .ok ()) := by
  cases kind <;> cases direction <;> cases channel <;> rfl

theorem Event.Serves.write?_eq_none {stream : η} {event : Event η α}
    (serves : event.Serves stream) : event.write? kind direction channel = none := by
  rcases serves with ⟨count, outcome, rfl⟩ | ⟨rooms, wait, outcome, rfl⟩ <;> rfl

end Writes

/-- The commands of a trial write what it offers. -/
theorem lastWrite_issued_commands {search : Search} {channel : Channel} {trial : Trial α}
    {offer : Offer α} (offered : search.offer? channel trial = some offer) :
    lastWrite (η := η) search.kind search.direction channel (Event.issued trial.commands) =
      some (offer.candidate, .ok ()) := by
  cases search <;> cases trial <;> cases offered <;> cases channel <;> rfl

/-- The commands of a trial write no correction of the other direction. -/
theorem Event.Gives.write?_eq_none {event : Event η α} {trial : Trial α}
    (given : event.Gives trial.commands) {kind : CorrectionKind} {direction : Direction}
    {channel : Channel} (other : trial.direction ≠ direction) :
    event.write? kind direction channel = none := by
  obtain ⟨command, listed, outcome, rfl⟩ := given
  cases trial with
  | receive iq images =>
      obtain ⟨channel', -, rfl⟩ := List.mem_map.mp listed
      exact if_neg fun same => other same.2.1
  | transmit iq dc images leakages =>
      obtain ⟨channel', -, written⟩ := List.mem_flatMap.mp listed
      rcases List.mem_pair.mp written with rfl | rfl <;> exact if_neg fun same => other same.2.1

section Commands

variable {search : Search} {channel : Channel} {value : Phasor α} {trial : Trial α}

theorem correction_inj {kind kind' : CorrectionKind} {direction direction' : Direction}
    {channel' : Channel} {value' : Phasor α}
    (same : Command.correction kind direction channel value =
      .correction kind' direction' channel' value') :
    kind = kind' ∧ direction = direction' ∧ channel = channel' ∧ value = value' := by
  cases kind <;> cases kind' <;> cases same <;> exact ⟨rfl, rfl, rfl, rfl⟩

theorem correction_mem_writeCorrections {kind kind' : CorrectionKind}
    {direction direction' : Direction} {values : PerChannel (Phasor α)}
    (written : .correction kind direction channel value ∈
      writeCorrections kind' direction' values) :
    kind = kind' ∧ direction = direction' ∧ value = values.get channel := by
  obtain ⟨channel', -, same⟩ := List.mem_map.mp written
  obtain ⟨rfl, rfl, rfl, rfl⟩ := correction_inj same
  exact ⟨rfl, rfl, rfl⟩

theorem Event.write?_correction (kind : CorrectionKind) (direction : Direction)
    (channel : Channel) (value : Phasor α) (outcome : Except DeviceError Unit) :
    Event.write? (η := η) kind direction channel
        (.commanded (.correction kind direction channel value) outcome) =
      some (value, outcome) := by
  cases kind <;> exact if_pos ⟨rfl, rfl, rfl⟩

/-- Each command of a trial for a search writes what the trial offers to it. -/
theorem candidate_of_mem_commands {offer : Offer α}
    (offered : search.offer? channel trial = some offer)
    (written : .correction search.kind search.direction channel value ∈ trial.commands) :
    value = offer.candidate := by
  cases search <;> cases trial <;> cases offered
  case receiveIq.receive => exact (correction_mem_writeCorrections written).2.2
  all_goals
    obtain ⟨channel', -, listed⟩ := List.mem_flatMap.mp written
    rcases List.mem_pair.mp listed with same | same <;> cases same
    rfl

theorem not_mem_commands (other : trial.direction ≠ search.direction) :
    .correction search.kind search.direction channel value ∉ trial.commands := by
  intro written
  have given : (Event.commanded (η := Unit) _ (.ok ())).Gives trial.commands :=
    ⟨_, written, _, rfl⟩
  have none : Event.write? search.kind search.direction channel _ = none :=
    given.write?_eq_none other
  rw [Event.write?_correction] at none
  cases none

end Commands

/-- An event of a log with one more event at its end is either that one or in the log. -/
theorem split_concat {past future log : List (Event η α)} {event last : Event η α}
    (split : log ++ [last] = past ++ event :: future) :
    (log = past ∧ last = event) ∨ ∃ between, log = past ++ event :: between := by
  rcases List.eq_nil_or_concat future with rfl | ⟨between, final, rfl⟩
  · exact .inl ((List.append_inj' split rfl).imp_right List.singleton_inj.mp)
  · rw [List.concat_eq_append, ← List.cons_append, ← List.append_assoc] at split
    exact .inr ⟨between, (List.append_inj' split rfl).1⟩

/-- Whether no event of a list is a trial. -/
def Untried (events : List (Event η α)) : Prop := ∀ event ∈ events, event.trial? = none

theorem untried_issued (commands : List (Command α)) :
    Untried (η := η) (Event.issued commands) := by
  intro event member
  obtain ⟨command, -, outcome, rfl⟩ := Event.gives_of_mem_issued member
  rfl

theorem untried_of_gives {commands : List (Command α)} {events : List (Event η α)}
    (given : ∀ event ∈ events, event.Gives commands) : Untried events := by
  intro event member
  obtain ⟨command, -, outcome, rfl⟩ := given event member
  rfl

theorem untried_of_serves {stream : η} {events : List (Event η α)}
    (served : ∀ event ∈ events, event.Serves stream) : Untried events := by
  intro event member
  rcases served event member with ⟨count, outcome, rfl⟩ | ⟨rooms, wait, outcome, rfl⟩ <;> rfl

/-- Whether events only give allowed commands and take captures. -/
def Confined (allowed : Command α → Prop) (events : List (Event η α)) : Prop :=
  ∀ event ∈ events,
    (∃ command outcome, allowed command ∧ event = .commanded command outcome) ∨
      ∃ stream, event.Serves stream

section Confined

variable {allowed : Command α → Prop}

theorem confined_of_gives {commands : List (Command α)} {events : List (Event η α)}
    (given : ∀ event ∈ events, event.Gives commands) :
    Confined (· ∈ commands) events := by
  intro event member
  obtain ⟨command, listed, outcome, rfl⟩ := given event member
  exact .inl ⟨command, outcome, listed, rfl⟩

theorem confined_issued (commands : List (Command α)) :
    Confined (· ∈ commands) (Event.issued (η := η) commands) :=
  confined_of_gives fun _ => Event.gives_of_mem_issued

theorem confined_of_serves {stream : η} {events : List (Event η α)}
    (served : ∀ event ∈ events, event.Serves stream) : Confined allowed events :=
  fun event member => .inr ⟨stream, served event member⟩

theorem Confined.append {earlier later : List (Event η α)} (first : Confined allowed earlier)
    (second : Confined allowed later) : Confined allowed (earlier ++ later) :=
  List.forall_mem_append.mpr ⟨first, second⟩

theorem Confined.mono {more : Command α → Prop} {events : List (Event η α)}
    (confined : Confined allowed events) (allows : ∀ command, allowed command → more command) :
    Confined more events := by
  intro event member
  rcases confined event member with ⟨command, outcome, given, rfl⟩ | served
  · exact .inl ⟨command, outcome, allows command given, rfl⟩
  · exact .inr served

theorem Confined.untried {events : List (Event η α)} (confined : Confined allowed events) :
    Untried events := by
  intro event member
  rcases confined event member with ⟨command, outcome, -, rfl⟩ | ⟨stream, served⟩
  · rfl
  · exact untried_of_serves (List.forall_mem_singleton.mpr served) event List.mem_cons_self

end Confined

theorem Untried.append {earlier later : List (Event η α)} (first : Untried earlier)
    (second : Untried later) : Untried (earlier ++ later) := by
  intro event member
  rcases List.mem_append.mp member with early | late
  · exact first event early
  · exact second event late

theorem Untried.not_mem {events : List (Event η α)} (untried : Untried events)
    (trial : Trial α) : .tried trial ∉ events :=
  fun member => nomatch untried _ member

theorem Untried.offers_eq_nil {events : List (Event η α)} (untried : Untried events)
    (search : Search) (channel : Channel) : search.offers channel events = [] := by
  rw [Search.offers, List.filterMap_eq_nil_iff.mpr untried]
  rfl

theorem Untried.offers_append {log later : List (Event η α)}
    (untried : Untried later) (search : Search) (channel : Channel) :
    search.offers channel (log ++ later) = search.offers channel log := by
  rw [Search.offers_append, untried.offers_eq_nil, List.append_nil]

end LoopbackCalibration
