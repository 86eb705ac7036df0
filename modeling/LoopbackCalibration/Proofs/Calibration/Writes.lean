import LoopbackCalibration.Proofs.Calibration.Invariant
import LoopbackCalibration.Proofs.Search.Reach

/-! # What is written

A calibration writes a correction in one of three ways: it clears it before the searches,
it tries a point of a grid against what had been found at the start of that grid, and it
applies what the search has found (`Prescribed`). This holds of every write of every run,
those of a trial that is broken off included (`Calibration.writesPrescribed_journal`),
and whatever is written is reached by the grids of the search (`Prescribed.reaches`).
-/

namespace LoopbackCalibration

open Action

variable {σ η α : Type} [Scalar α] {config : Config α} {stream : η}

/-- How many points grids have. -/
def Grid.points (grids : List Grid) : Nat := (grids.map Grid.size).sum

theorem Grid.points_concat (grids : List Grid) (last : Grid) :
    points (grids ++ [last]) = points grids + last.size := by
  unfold points
  rw [List.map_append, List.sum_append, List.map_singleton, List.sum_singleton]

/-- Whether a search of a kind may write a correction on a channel, after the offers made to
it there. -/
inductive Prescribed (config : Config α) (kind : CorrectionKind) (offers : List (Offer α))
    (value : Phasor α) : Prop
  /-- Before its first trial the correction is cleared. -/
  | cleared (untried : offers = []) (identity : value = kind.identity)
  /-- A point of a grid refines what was held when the trials of the grid began. -/
  | tried (done : List Grid) (grid : Grid) (rest : List Grid) (index : Nat)
      (visits : config.grids = done ++ grid :: rest) (within : index < grid.size)
      (counted : offers.length = Grid.points done + index)
      (reaches : Reaches kind done (BestTracker.held kind (offers.take (Grid.points done))))
      (refines : value = kind.refine (BestTracker.held kind (offers.take (Grid.points done)))
        (kind.delta (grid.point index)))
  /-- After its last trial what is held is applied. -/
  | found (counted : offers.length = Grid.points config.grids)
      (reaches : Reaches kind config.grids value) (held : value = BestTracker.held kind offers)

/-- What may be written is reached by the grids. -/
theorem Prescribed.reaches {kind : CorrectionKind} {offers : List (Offer α)} {value : Phasor α}
    (prescribed : Prescribed config kind offers value) : Reaches kind config.grids value := by
  cases prescribed with
  | cleared untried identity =>
      rw [identity]
      exact reaches_identity kind config.grids
  | tried done grid rest index visits within counted reaches refines =>
      rw [refines]
      apply (reaches.refine within).mono
      rw [visits]
      exact (List.Sublist.refl done).append (List.singleton_sublist.mpr List.mem_cons_self)
  | found counted reaches held => exact reaches

/-- Whether all that a log writes as a correction of a search on a channel may be written. -/
def WritesPrescribed (config : Config α) (search : Search) (channel : Channel)
    (log : List (Event η α)) : Prop :=
  ∀ past value outcome future,
    log = past ++
      .commanded (.correction search.kind search.direction channel value) outcome :: future →
    Prescribed config search.kind (search.offers channel past) value

section Writing

variable {search : Search} {channel : Channel} {log later : List (Event η α)}

theorem writesPrescribed_nil :
    WritesPrescribed config search channel ([] : List (Event η α)) := by
  intro past value outcome future split
  simp at split

theorem WritesPrescribed.concat (prescribed : WritesPrescribed config search channel log)
    {event : Event η α}
    (writes : ∀ value outcome,
      event = .commanded (.correction search.kind search.direction channel value) outcome →
      Prescribed config search.kind (search.offers channel log) value) :
    WritesPrescribed config search channel (log ++ [event]) := by
  intro past value outcome future split
  rcases split_concat split with ⟨rfl, last⟩ | ⟨between, earlier⟩
  · exact writes value outcome last
  · exact prescribed past value outcome between earlier

/-- Commands and captures without a trial among them. -/
theorem WritesPrescribed.append (prescribed : WritesPrescribed config search channel log)
    {allowed : Command α → Prop} (confined : Confined allowed later)
    (writes : ∀ value, allowed (.correction search.kind search.direction channel value) →
      Prescribed config search.kind (search.offers channel log) value) :
    WritesPrescribed config search channel (log ++ later) := by
  induction later using List.reverseRecOn with
  | nil => rwa [List.append_nil]
  | append_singleton later last ih =>
      have before : Confined allowed later := fun event member =>
        confined event (List.mem_append_left _ member)
      rw [← List.append_assoc]
      apply (ih before).concat
      rintro value outcome rfl
      rw [before.untried.offers_append]
      rcases confined _ (List.mem_append_right later List.mem_cons_self) with
        ⟨command, outcome', given, same⟩ | ⟨stream, served⟩
      · cases same
        exact writes value given
      · rcases served with ⟨count, outcome', other⟩ | ⟨rooms, wait, outcome', other⟩ <;> cases other

/-- One trial, whose corrections are written before it is told of. -/
theorem WritesPrescribed.tries (prescribed : WritesPrescribed config search channel log)
    {trial : Trial α} (tries : Tries config stream trial later)
    (writes : ∀ value,
      .correction search.kind search.direction channel value ∈ trial.commands →
      Prescribed config search.kind (search.offers channel log) value) :
    WritesPrescribed config search channel (log ++ later) := by
  obtain ⟨burst, block, rfl, captures, -⟩ := tries
  have confined : Confined (· ∈ trial.commands) (Event.issued trial.commands ++ burst) :=
    (confined_issued _).append (confined_of_serves captures.serves)
  rw [← List.append_assoc]
  apply (prescribed.append confined writes).concat
  rintro value outcome ⟨⟩

end Writing

namespace Search

/-- What a search has found when it visited some grids and made some trials, and nothing else
happened to its corrections. -/
structure Reached (config : Config α) (search : Search) (visited : List Grid) (made : Nat)
    (found : SearchState α) (log : List (Event η α)) : Prop where
  kind_eq : found.kind = search.kind
  best_eq : ∀ channel, found.best.get channel = .replay search.kind (search.offers channel log)
  counted : ∀ channel, (search.offers channel log).length = made
  reaches : ∀ channel, Reaches search.kind visited (found.best.get channel).correction
  prescribed : ∀ channel, WritesPrescribed config search channel log

/-- Some points of a grid behind visited ones were tried, from what was held at the start. -/
structure Underway (config : Config α) (search : Search) (done : List Grid) (grid : Grid)
    (index : Nat) (start found : SearchState α) (log : List (Event η α)) : Prop
    extends Reached config search (done ++ [grid]) (Grid.points done + index) found log where
  started : ∀ channel, (start.best.get channel).correction =
    BestTracker.held search.kind ((search.offers channel log).take (Grid.points done))
  reaches_start : ∀ channel, Reaches search.kind done (start.best.get channel).correction

/-- On each channel a trial refines, by a test point, what was held at the start. -/
def Refines (search : Search) (start : SearchState α) (point : TestPoint α) (trial : Trial α) :
    Prop :=
  ∀ channel, ∃ offer, search.offer? channel trial = some offer ∧
    offer.candidate = search.kind.refine (start.best.get channel).correction
      (search.kind.delta point)

variable {search : Search} {visited done rest : List Grid} {grid : Grid} {made index : Nat}
  {start found : SearchState α} {log later : List (Event η α)}

/-- Commands and captures are no trials. -/
theorem Reached.append (reached : search.Reached config visited made found log)
    {allowed : Command α → Prop} (confined : Confined allowed later)
    (writes : ∀ channel value,
      allowed (.correction search.kind search.direction channel value) →
      Prescribed config search.kind (search.offers channel log) value) :
    search.Reached config visited made found (log ++ later) where
  kind_eq := reached.kind_eq
  best_eq channel := by rw [confined.untried.offers_append, reached.best_eq]
  counted channel := by rw [confined.untried.offers_append, reached.counted]
  reaches := reached.reaches
  prescribed channel := (reached.prescribed channel).append confined (writes channel)

/-- The trials of the other direction do nothing to a search. -/
theorem Reached.tries_other (reached : search.Reached config visited made found log)
    {trial : Trial α} (tries : Tries config stream trial later)
    (other : trial.direction ≠ search.direction) :
    search.Reached config visited made found (log ++ later) where
  kind_eq := reached.kind_eq
  best_eq channel := by rw [tries.offers_append other, reached.best_eq]
  counted channel := by rw [tries.offers_append other, reached.counted]
  reaches := reached.reaches
  prescribed channel := (reached.prescribed channel).tries tries fun value written =>
    (not_mem_commands other written).elim

theorem Reached.breaks_other (reached : search.Reached config visited made found log)
    {trial : Trial α} (confined : Confined (· ∈ trial.commands) later)
    (other : trial.direction ≠ search.direction) (channel : Channel) :
    WritesPrescribed config search channel (log ++ later) :=
  (reached.prescribed channel).append confined fun _ written =>
    (not_mem_commands other written).elim

theorem Reached.begins (reached : search.Reached config done (Grid.points done) found log)
    (grid : Grid) : search.Underway config done grid 0 found found log where
  kind_eq := reached.kind_eq
  best_eq := reached.best_eq
  counted := reached.counted
  reaches channel := (reached.reaches channel).mono (List.sublist_append_left _ _)
  prescribed := reached.prescribed
  started channel := by
    rw [reached.best_eq, List.take_of_length_le (reached.counted channel).le]
    rfl
  reaches_start := reached.reaches

theorem Underway.ends (underway : search.Underway config done grid grid.size start found log) :
    search.Reached config (done ++ [grid]) (Grid.points (done ++ [grid])) found log := by
  rw [Grid.points_concat]
  exact underway.toReached

section Trial

variable {trial : Trial α}
  (underway : search.Underway config done grid index start found log)
  (visits : config.grids = done ++ grid :: rest) (within : index < grid.size)
  (refines : search.Refines start (grid.point index) trial)

include underway visits within refines

/-- The commands of the next trial may be given. -/
theorem Underway.writes (channel : Channel) (value : Phasor α)
    (written : .correction search.kind search.direction channel value ∈ trial.commands) :
    Prescribed config search.kind (search.offers channel log) value := by
  obtain ⟨offer, offered, candidate⟩ := refines channel
  have reaches := underway.reaches_start channel
  rw [underway.started] at candidate reaches
  apply Prescribed.tried done grid rest index visits within (underway.counted channel) reaches
  rw [candidate_of_mem_commands offered written, candidate]

/-- **One more trial.** The point is the next one of the grid, so what is written may be
written, and what is held afterwards is reached by the grids visited. -/
theorem Underway.tries {found' : SearchState α} (tries : Tries config stream trial later)
    (kind_eq : found'.kind = found.kind)
    (taken : ∀ channel offer, search.offer? channel trial = some offer →
      found'.best.get channel =
        (found.best.get channel).offer offer.candidate offer.level) :
    search.Underway config done grid (index + 1) start found' (log ++ later) := by
  have offers : ∀ channel offer, search.offer? channel trial = some offer →
      search.offers channel (log ++ later) = search.offers channel log ++ [offer] := by
    intro channel offer offered
    rw [offers_append, tries.offers_eq, offered]
    rfl
  have earlier : ∀ channel, Grid.points done ≤ (search.offers channel log).length := by
    intro channel
    rw [underway.counted]
    exact Nat.le_add_right _ _
  constructor
  · constructor
    · rw [kind_eq, underway.kind_eq]
    · intro channel
      obtain ⟨offer, offered, -⟩ := refines channel
      rw [taken channel offer offered, offers channel offer offered, underway.best_eq,
        BestTracker.replay_concat]
    · intro channel
      obtain ⟨offer, offered, -⟩ := refines channel
      rw [offers channel offer offered, List.length_append, underway.counted]
      rfl
    · intro channel
      obtain ⟨offer, offered, candidate⟩ := refines channel
      rw [taken channel offer offered, BestTracker.offer]
      split
      · rw [candidate]
        exact (underway.reaches_start channel).refine within
      · exact underway.reaches channel
    · intro channel
      exact (underway.prescribed channel).tries tries
        (underway.writes visits within refines channel)
  · intro channel
    obtain ⟨offer, offered, -⟩ := refines channel
    rw [offers channel offer offered, List.take_append_of_le_length (earlier channel),
      underway.started]
  · exact underway.reaches_start

/-- A trial that is broken off has written nothing that may not be written. -/
theorem Underway.breaks (confined : Confined (· ∈ trial.commands) later)
    (channel : Channel) : WritesPrescribed config search channel (log ++ later) :=
  (underway.prescribed channel).append confined (underway.writes visits within refines channel)

end Trial

theorem reached_nil (search : Search) :
    search.Reached config [] 0 (.initial search.kind) ([] : List (Event η α)) where
  kind_eq := rfl
  best_eq channel := by cases channel <;> rfl
  counted _ := rfl
  reaches channel := by
    cases channel <;> exact reaches_identity search.kind []
  prescribed _ := writesPrescribed_nil

end Search

/-- Whether all that a log writes as corrections may be written. -/
def AllPrescribed (config : Config α) (log : List (Event η α)) : Prop :=
  ∀ search channel, WritesPrescribed config search channel log

/-- Between the searches: which grids the receive search and the transmit searches have
visited, and what they have found. -/
structure Standing (config : Config α) (received transmitted : List Grid)
    (found : SearchState α) (transmit : Calibration.TransmitState α) (log : List (Event η α)) :
    Prop where
  receiveIq : Search.receiveIq.Reached config received (Grid.points received) found log
  transmitIq :
    Search.transmitIq.Reached config transmitted (Grid.points transmitted) transmit.iq log
  transmitDc :
    Search.transmitDc.Reached config transmitted (Grid.points transmitted) transmit.dc log

section Standing

variable {received transmitted : List Grid} {found : SearchState α}
  {transmit : Calibration.TransmitState α} {log later : List (Event η α)}

theorem standing_nil :
    Standing config [] [] (.initial .iqBalance) .initial ([] : List (Event η α)) where
  receiveIq := Search.reached_nil .receiveIq
  transmitIq := Search.reached_nil .transmitIq
  transmitDc := Search.reached_nil .transmitDc

theorem Standing.prescribed
    (standing : Standing config received transmitted found transmit log) :
    AllPrescribed config log := by
  intro search
  cases search with
  | receiveIq => exact standing.receiveIq.prescribed
  | transmitIq => exact standing.transmitIq.prescribed
  | transmitDc => exact standing.transmitDc.prescribed

theorem Standing.append (standing : Standing config received transmitted found transmit log)
    {allowed : Command α → Prop} (confined : Confined allowed later)
    (writes : ∀ (search : Search) channel value,
      allowed (.correction search.kind search.direction channel value) →
      Prescribed config search.kind (search.offers channel log) value) :
    Standing config received transmitted found transmit (log ++ later) where
  receiveIq := standing.receiveIq.append confined (writes .receiveIq)
  transmitIq := standing.transmitIq.append confined (writes .transmitIq)
  transmitDc := standing.transmitDc.append confined (writes .transmitDc)

end Standing

namespace Calibration

variable {rig : Rig σ η α}

/-- A receive trial of a test point. -/
private def receiveTrial (start : SearchState α) (point : TestPoint α) (images : PerChannel α) :
    Trial α :=
  .receive (start.corrections.map (composeIq point.iq)) images

private theorem refines_receive (start : SearchState α) (point : TestPoint α)
    (images : PerChannel α) :
    Search.receiveIq.Refines start point (receiveTrial start point images) := by
  intro channel
  refine ⟨_, rfl, ?_⟩
  simp only [SearchState.corrections, PerChannel.get_map]
  rfl

/-- A transmit trial of a test point. -/
private def transmitTrial (start : TransmitState α) (point : TestPoint α)
    (images leakages : PerChannel α) : Trial α :=
  .transmit (start.iq.corrections.map (composeIq point.iq))
    (start.dc.corrections.map fun offset => offsetDc offset point.dc) images leakages

private theorem refines_transmit_iq (start : TransmitState α) (point : TestPoint α)
    (images leakages : PerChannel α) :
    Search.transmitIq.Refines start.iq point (transmitTrial start point images leakages) := by
  intro channel
  refine ⟨_, rfl, ?_⟩
  simp only [SearchState.corrections, PerChannel.get_map]
  rfl

private theorem refines_transmit_dc (start : TransmitState α) (point : TestPoint α)
    (images leakages : PerChannel α) :
    Search.transmitDc.Refines start.dc point (transmitTrial start point images leakages) := by
  intro channel
  refine ⟨_, rfl, ?_⟩
  simp only [SearchState.corrections, PerChannel.get_map]
  rfl

private theorem ensuresLog_standing_receive :
    EnsuresLog (Standing config [] [] (.initial .iqBalance) .initial)
      (searchReceive (Journal.rig rig) config stream)
      (fun found => Standing config config.grids [] found .initial) (AllPrescribed config) := by
  unfold searchReceive
  refine ensuresLog_tryGrids_inOrder
    (fun done found log => Standing config done [] found .initial log)
    (fun done grid index start found log =>
      Search.receiveIq.Underway config done grid index start found log ∧
        Search.transmitIq.Reached config [] 0 (.initial .iqBalance) log ∧
        Search.transmitDc.Reached config [] 0 (.initial .dcOffset) log)
    ?_ ?_ ?_ ?_ _
  · intro done grid rest visits found log standing
    exact ⟨standing.receiveIq.begins grid, standing.transmitIq, standing.transmitDc⟩
  · intro done grid rest visits index within start found
    have refines := refines_receive start (grid.point index)
    apply (emits_tryReceive start (grid.point index) found).ensuresLog
    · rintro log found' emitted ⟨underway, iq, dc⟩ ⟨balances, images, rfl, tries, rfl⟩
      refine ⟨underway.tries visits within (refines images) tries rfl ?_,
        iq.tries_other tries nofun, dc.tries_other tries nofun⟩
      rintro channel offer ⟨⟩
      exact SearchState.get_offerBoth _ _ _ channel
    · rintro log emitted ⟨underway, iq, dc⟩ confined search channel
      have tried := refines (.both 0)
      change Confined (· ∈ (receiveTrial start (grid.point index) (.both 0)).commands)
        emitted at confined
      cases search with
      | receiveIq => exact underway.breaks visits within tried confined channel
      | transmitIq => exact iq.breaks_other confined nofun channel
      | transmitDc => exact dc.breaks_other confined nofun channel
  · rintro done grid rest visits start found log ⟨underway, iq, dc⟩
    exact ⟨underway.ends, iq, dc⟩
  · intro done found log standing
    exact standing.prescribed

private theorem ensuresLog_standing_transmit {found : SearchState α} :
    EnsuresLog (Standing config config.grids [] found .initial)
      (searchTransmit (Journal.rig rig) config stream)
      (fun transmit => Standing config config.grids config.grids found transmit)
      (AllPrescribed config) := by
  unfold searchTransmit
  refine ensuresLog_tryGrids_inOrder
    (fun done transmit log => Standing config config.grids done found transmit log)
    (fun done grid index start transmit log =>
      Search.receiveIq.Reached config config.grids (Grid.points config.grids) found log ∧
        Search.transmitIq.Underway config done grid index start.iq transmit.iq log ∧
        Search.transmitDc.Underway config done grid index start.dc transmit.dc log)
    ?_ ?_ ?_ ?_ _
  · intro done grid rest visits transmit log standing
    exact ⟨standing.receiveIq, standing.transmitIq.begins grid, standing.transmitDc.begins grid⟩
  · intro done grid rest visits index within start transmit
    have refinesIq := refines_transmit_iq start (grid.point index)
    have refinesDc := refines_transmit_dc start (grid.point index)
    apply (emits_tryTransmit start (grid.point index) transmit).ensuresLog
    · rintro log transmit' emitted ⟨receive, iq, dc⟩
        ⟨balances, offsets, images, leakages, rfl, rfl, tries, rfl⟩
      refine ⟨receive.tries_other tries nofun,
        iq.tries visits within (refinesIq images leakages) tries rfl ?_,
        dc.tries visits within (refinesDc images leakages) tries rfl ?_⟩
      · rintro channel offer ⟨⟩
        exact SearchState.get_offerBoth _ _ _ channel
      · rintro channel offer ⟨⟩
        exact SearchState.get_offerBoth _ _ _ channel
    · rintro log emitted ⟨receive, iq, dc⟩ confined search channel
      have triedIq := refinesIq (.both 0) (.both 0)
      have triedDc := refinesDc (.both 0) (.both 0)
      change Confined (· ∈ (transmitTrial start (grid.point index) (.both 0) (.both 0)).commands)
        emitted at confined
      cases search with
      | receiveIq => exact receive.breaks_other confined nofun channel
      | transmitIq => exact iq.breaks visits within triedIq confined channel
      | transmitDc => exact dc.breaks visits within triedDc confined channel
  · rintro done grid rest visits start transmit log ⟨receive, iq, dc⟩
    exact ⟨receive, iq.ends, dc.ends⟩
  · intro done transmit log standing
    exact standing.prescribed

section Steps

variable {β : Type} {action : Action (Progress (Journal σ η α)) (Halt CalibrationError) β}
  {received transmitted : List Grid} {found : SearchState α} {transmit : TransmitState α}

/-- Commands and captures that write only what may be written. -/
private theorem keeps_standing {allowed : Command α → Prop}
    (emits : Emits action (fun _ => Confined allowed) (Confined allowed))
    (writes : ∀ log : List (Event η α),
      Standing config received transmitted found transmit log →
      ∀ (search : Search) channel value,
        allowed (.correction search.kind search.direction channel value) →
        Prescribed config search.kind (search.offers channel log) value) :
    EnsuresLog (Standing config received transmitted found transmit) action
      (fun _ => Standing config received transmitted found transmit) (AllPrescribed config) := by
  apply emits.ensuresLog
  · intro log value emitted standing confined
    exact standing.append confined (writes log standing)
  · intro log emitted standing confined
    exact (standing.append confined (writes log standing)).prescribed

private theorem keeps_mute (mute : Mute action) :
    EnsuresLog (Standing config received transmitted found transmit) action
      (fun _ => Standing config received transmitted found transmit) (AllPrescribed config) := by
  apply Emits.ensuresLog mute
  · rintro log value _ standing rfl
    rwa [List.append_nil]
  · rintro log _ standing rfl
    rw [List.append_nil]
    exact standing.prescribed

private theorem keeps_capture :
    EnsuresLog (Standing config received transmitted found transmit)
      (capture (Journal.rig rig) config stream)
      (fun _ => Standing config received transmitted found transmit) (AllPrescribed config) := by
  have emits : Emits (capture (Journal.rig rig) config stream)
      (fun _ => Confined fun _ => False) (Confined fun _ => False) := confined_capture
  exact keeps_standing emits fun _ _ _ _ _ => False.elim

/-- Setting the receive gain writes no correction. -/
private theorem keeps_adjustGain :
    EnsuresLog (Standing config received transmitted found transmit)
      (adjustGain (Journal.rig rig) config stream)
      (fun _ => Standing config received transmitted found transmit) (AllPrescribed config) := by
  apply keeps_standing confined_adjustGain
  rintro log standing search channel value ⟨gains, listed⟩
  obtain ⟨channel', -, same⟩ := List.mem_map.mp listed
  cases search <;> cases same

/-- Moving the transmit tones apart writes no correction. -/
private theorem keeps_separation :
    EnsuresLog (Standing config received transmitted found transmit)
      (issue (Journal.rig rig) config.separation)
      (fun _ => Standing config received transmitted found transmit) (AllPrescribed config) := by
  apply keeps_standing (confined_issue _)
  intro log standing search channel value listed
  obtain ⟨channel', -, same⟩ := List.mem_map.mp listed
  cases search <;> cases same

/-- Tuning writes the identity of each kind. -/
private theorem identity_of_mem_tuning {frequency : α} {search : Search} {channel : Channel}
    {value : Phasor α}
    (listed : .correction search.kind search.direction channel value ∈ config.tuning frequency) :
    value = search.kind.identity := by
  have both : ∀ {kind direction},
      .correction search.kind search.direction channel value ∈
        writeCorrections kind direction (.both kind.identity) → value = search.kind.identity := by
    intro kind direction written
    obtain ⟨rfl, -, same⟩ := correction_mem_writeCorrections written
    rw [same, PerChannel.get_both]
  rcases List.mem_append.mp listed with earlier | receive
  · rcases List.mem_append.mp earlier with earlier | transmit
    · rcases List.mem_append.mp earlier with tuned | offsets
      · rcases List.mem_append.mp tuned with mixers | stopped
        · rcases List.mem_pair.mp mixers with same | same <;> cases search <;> cases same
        · obtain ⟨channel', -, pair⟩ := List.mem_flatMap.mp stopped
          rcases List.mem_pair.mp pair with same | same <;> cases search <;> cases same
      · exact both offsets
    · exact both transmit
  · exact both receive

/-- Tuning clears the corrections. -/
private theorem keeps_tuning (frequency : α) :
    EnsuresLog (Standing config [] [] found transmit)
      (issue (Journal.rig rig) (config.tuning frequency))
      (fun _ => Standing config [] [] found transmit) (AllPrescribed config) := by
  apply keeps_standing (confined_issue _)
  intro log standing search channel value listed
  have unoffered : search.offers channel log = [] := by
    apply List.eq_nil_of_length_eq_zero
    cases search with
    | receiveIq => exact standing.receiveIq.counted channel
    | transmitIq => exact standing.transmitIq.counted channel
    | transmitDc => exact standing.transmitDc.counted channel
  exact .cleared unoffered (identity_of_mem_tuning listed)

/-- After its last trial a search may apply what it has found. -/
private theorem keeps_applying (search : Search) {state : SearchState α}
    (reached : ∀ log : List (Event η α),
      Standing config received transmitted found transmit log →
      search.Reached config config.grids (Grid.points config.grids) state log) :
    EnsuresLog (Standing config received transmitted found transmit)
      (issue (Journal.rig rig) (state.commands search.direction))
      (fun _ => Standing config received transmitted found transmit) (AllPrescribed config) := by
  apply keeps_standing (confined_issue _)
  intro log standing other channel value written
  have own := reached log standing
  obtain ⟨kinds, directions, same⟩ := correction_mem_writeCorrections written
  rw [own.kind_eq] at kinds
  obtain rfl := Search.eq_of_kind_of_direction kinds directions
  rw [SearchState.corrections, PerChannel.get_map] at same
  apply Prescribed.found (own.counted channel)
  · rw [same]
    exact own.reaches channel
  · rw [same, own.best_eq]
    rfl

end Steps

/-- A calibration writes only what may be written, also when it fails, and what it reports
for a search is what the search has found. -/
private theorem ensuresLog_standing (frequency : α) :
    EnsuresLog (Standing config [] [] (.initial .iqBalance) .initial)
      (calibrate (Journal.rig rig) config frequency stream)
      (fun outcome log => ∃ found transmit,
        Standing config config.grids config.grids found transmit log ∧
          outcome.rxIq = found.result ∧ outcome.txIq = transmit.iq.result ∧
            outcome.txDc = transmit.dc.result)
      (AllPrescribed config) := by
  unfold calibrate
  refine (keeps_mute mute_clock).bind fun started => ?_
  refine (keeps_mute (mute_enter .initial)).bind fun _ => ?_
  refine (keeps_tuning frequency).bind fun _ => ?_
  refine (keeps_mute mute_advance).bind fun _ => ?_
  refine keeps_adjustGain.bind fun rxPgaGain => ?_
  refine (keeps_mute mute_advance).bind fun _ => ?_
  refine keeps_capture.bind fun rxInitial => ?_
  refine ensuresLog_standing_receive.bind fun found => ?_
  refine (keeps_applying .receiveIq fun _ => Standing.receiveIq).bind fun _ => ?_
  refine keeps_capture.bind fun rxFinal => ?_
  refine (keeps_mute mute_advance).bind fun _ => ?_
  refine keeps_separation.bind fun _ => ?_
  refine keeps_capture.bind fun txInitial => ?_
  refine ensuresLog_standing_transmit.bind fun transmit => ?_
  refine (keeps_applying .transmitIq fun _ => Standing.transmitIq).bind fun _ => ?_
  refine (keeps_applying .transmitDc fun _ => Standing.transmitDc).bind fun _ => ?_
  refine keeps_capture.bind fun txFinal => ?_
  refine (keeps_mute mute_advance).bind fun _ => ?_
  refine (keeps_mute mute_countCandidates).bind fun candidates => ?_
  refine (keeps_mute mute_clock).bind fun finished => ?_
  exact ensuresLog_pure _ fun log standing => ⟨found, transmit, standing, rfl, rfl, rfl⟩

variable (rig : Rig σ η α) (config : Config α) (frequency : α) (stream : η)
  (progress : Progress σ)

/-- **Every write may be written**, whether the calibration succeeds or fails. -/
theorem writesPrescribed_journal (search : Search) (channel : Channel) :
    WritesPrescribed config search channel
      (journal rig config frequency stream progress) := by
  rcases (ensuresLog_standing frequency).good_or_bad_journal standing_nil progress with
    ⟨outcome, found, transmit, standing, -⟩ | prescribed
  · exact standing.prescribed search channel
  · exact prescribed search channel

/-- What a successful calibration reports for a search is reached by its grids. -/
theorem reaches_result {outcome : Outcome α} {after : Progress σ}
    (success : calibrate rig config frequency stream progress = (.ok outcome, after))
    (search : Search) (channel : Channel) :
    Reaches search.kind config.grids ((search.result outcome).correction.get channel) := by
  obtain ⟨found, transmit, standing, receiveIq, transmitIq, transmitDc⟩ :=
    (ensuresLog_standing frequency).good_journal standing_nil progress success
  cases search with
  | receiveIq =>
      rw [Search.result, receiveIq, SearchState.get_correction_result]
      exact standing.receiveIq.reaches channel
  | transmitIq =>
      rw [Search.result, transmitIq, SearchState.get_correction_result]
      exact standing.transmitIq.reaches channel
  | transmitDc =>
      rw [Search.result, transmitDc, SearchState.get_correction_result]
      exact standing.transmitDc.reaches channel

/-- A run writes a value as the correction of a search on a channel, or reports it. -/
def Applies (search : Search) (channel : Channel) (value : Phasor α) : Prop :=
  (∃ past outcome future, journal rig config frequency stream progress =
    past ++ .commanded (.correction search.kind search.direction channel value) outcome :: future) ∨
  ∃ outcome after, calibrate rig config frequency stream progress = (.ok outcome, after) ∧
    value = (search.result outcome).correction.get channel

/-- What a run writes or reports is reached by its grids. -/
theorem reaches_of_applies {search : Search} {channel : Channel} {value : Phasor α}
    (applies : Applies rig config frequency stream progress search channel value) :
    Reaches search.kind config.grids value := by
  rcases applies with ⟨past, outcome, future, split⟩ | ⟨outcome, after, success, rfl⟩
  · exact (writesPrescribed_journal rig config frequency stream progress search channel
      past value outcome future split).reaches
  · exact reaches_result rig config frequency stream progress success search channel

end Calibration

end LoopbackCalibration
