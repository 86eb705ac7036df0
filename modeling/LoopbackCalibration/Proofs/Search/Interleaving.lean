import LoopbackCalibration.Proofs.Scalar.Binary64

/-! # Offers on two channels

The state of a search is offered corrections on both channels, in any order, and snapshots of
it are taken in between (`SearchState.watch`). What it holds of a channel is decided by the
offers on that channel alone: each offer that undercuts all those before it is taken, and the
last one taken is the earliest of the lowest. A snapshot is worth what the state was worth when
it was taken.
-/

namespace LoopbackCalibration

open Arithmetic

namespace Offer

variable {α : Type} [Arithmetic α]

/-- The offers of a list that undercut all offers before them, first to last. -/
def records (offers : List (Offer α)) : List (Offer α) :=
  (offers.zipIdx.filter fun (offer, index) => offer.undercuts (offers.take index)).map Prod.fst

theorem records_concat (offers : List (Offer α)) (last : Offer α) :
    records (offers ++ [last]) =
      records offers ++ if last.undercuts offers then [last] else [] := by
  have earlier : (offers.zipIdx.filter fun (offer, index) =>
      offer.undercuts ((offers ++ [last]).take index)) =
        offers.zipIdx.filter fun (offer, index) => offer.undercuts (offers.take index) := by
    apply List.filter_congr
    intro (offer, index) member
    have within : index < offers.length := by
      simpa using (List.mem_zipIdx member).2.1
    simp only [List.take_append_of_le_length (Nat.le_of_lt within)]
  rw [records, List.zipIdx_append, List.filter_append, earlier, List.map_append, ← records]
  by_cases undercuts : last.undercuts offers
  · simp [List.zipIdx, undercuts]
  · simp [List.zipIdx, undercuts]

theorem length_records (offers : List (Offer α)) :
    (records offers).length = improvements offers := by
  rw [records, List.length_map, improvements, List.countP_eq_length_filter]

/-- The last record is the leader. -/
theorem getLast?_records [Ordered α] (offers : List (Offer α)) :
    (records offers).getLast? = leader? offers := by
  induction offers using List.reverseRecOn with
  | nil => rfl
  | append_singleton offers last ih =>
      rw [records_concat, leader?_concat]
      by_cases undercuts : last.undercuts offers
      · rw [if_pos undercuts, if_pos undercuts, List.getLast?_concat]
      · rw [if_neg undercuts, if_neg undercuts, List.append_nil, ih]

/-- The leader is below every number before it, and nothing is below the leader. -/
theorem exists_split_of_leader?_eq_some [Ordered α] {offers : List (Offer α)} {best : Offer α}
    (leader : leader? offers = some best) :
    ∃ before after, offers = before ++ best :: after ∧
      (∀ earlier ∈ before, isNumber earlier.level → best.level < earlier.level) ∧
        ∀ other ∈ offers, ¬other.level < best.level := by
  obtain ⟨leads, before, after, split, behind⟩ := List.find?_eq_some_iff_append.mp leader
  obtain ⟨below, unbeaten⟩ := leads_iff.mp leads
  refine ⟨before, after, split, ?_, unbeaten⟩
  intro earlier member number
  by_cases finite : belowInfinity earlier.level
  · have beaten : ¬earlier.leads offers := by simpa using behind earlier member
    rw [leads_iff, not_and] at beaten
    obtain ⟨other, present, lower⟩ : ∃ other ∈ offers, other.level < earlier.level := by
      simpa using beaten finite
    have ordered := Ordered.separated best.level lower (Ordered.isNumber_of_belowInfinity below)
    exact ordered.resolve_left (unbeaten other present)
  · exact Ordered.lt_of_belowInfinity below number finite

end Offer

namespace SearchState

variable {α : Type}

/-- What happens to a search: a correction is offered on a channel, or a snapshot is taken. -/
inductive Turn (α : Type) where
  | offered (channel : Channel) (offer : Offer α)
  | snapshot

/-- The offer that a turn makes on a channel. -/
def Turn.offer? (channel : Channel) : Turn α → Option (Offer α)
  | .offered own offer => if own = channel then some offer else none
  | .snapshot => none

/-- The offers that turns make on a channel, first to last. -/
def Turn.offers (channel : Channel) (turns : List (Turn α)) : List (Offer α) :=
  turns.filterMap (Turn.offer? channel)

theorem Turn.offers_concat (channel : Channel) (turns : List (Turn α)) (last : Turn α) :
    Turn.offers channel (turns ++ [last]) =
      Turn.offers channel turns ++ (last.offer? channel).toList := by
  rw [Turn.offers, List.filterMap_append, ← Turn.offers]
  rcases own : last.offer? channel with _ | offer <;> simp [own]

/-- The state of a search with what it has let out. -/
structure Watched (α : Type) where
  state : SearchState α
  /-- For each offer, whether it was taken. -/
  answers : List Bool
  /-- The corrections that each snapshot holds. -/
  snapshots : List (PerChannel (Phasor α))

variable [Arithmetic α]

/-- What a turn makes of a search and of what is known of it. -/
def Watched.turn (watched : Watched α) : Turn α → Watched α
  | .offered channel offer =>
    { watched with
      state := watched.state.offer channel offer.candidate offer.level
      answers := watched.answers ++ [watched.state.improvedBy channel offer.level] }
  | .snapshot => { watched with snapshots := watched.snapshots ++ [watched.state.corrections] }

/-- A search of a kind after a list of turns. -/
def watch (kind : CorrectionKind) (turns : List (Turn α)) : Watched α :=
  turns.foldl .turn ⟨.initial kind, [], []⟩

theorem watch_concat (kind : CorrectionKind) (turns : List (Turn α)) (last : Turn α) :
    watch kind (turns ++ [last]) = (watch kind turns).turn last := by
  rw [watch, List.foldl_concat, ← watch]

/-- An offer on one channel does nothing on the other. -/
theorem get_best_offer_of_ne (state : SearchState α) {own channel : Channel}
    (other : own ≠ channel) (candidate : Phasor α) (level : α) :
    (state.offer own candidate level).best.get channel = state.best.get channel := by
  cases own <;> cases channel <;> first | rfl | exact absurd rfl other

/-- **A channel sees its own offers.** The tracker of a channel is the tracker that was made
the offers on this channel and no other. -/
theorem get_best_watch (kind : CorrectionKind) (turns : List (Turn α)) (channel : Channel) :
    (watch kind turns).state.best.get channel = .replay kind (Turn.offers channel turns) := by
  induction turns using List.reverseRecOn with
  | nil => cases channel <;> rfl
  | append_singleton turns last ih =>
      rw [watch_concat, Turn.offers_concat]
      cases last with
      | snapshot => exact ih.trans (congrArg _ (List.append_nil _).symm)
      | offered own offer =>
          rw [Watched.turn, Turn.offer?]
          by_cases same : own = channel
          · subst same
            rw [if_pos rfl, Option.toList_some, BestTracker.replay_concat, ← ih, SearchState.offer,
              PerChannel.get_set_same]
          · rw [if_neg same, Option.toList_none, List.append_nil, ← ih,
              get_best_offer_of_ne _ same]

/-- What a search has let out, it does not take back. -/
theorem exists_watch_append (kind : CorrectionKind) (past future : List (Turn α)) :
    (∃ answers, (watch kind (past ++ future)).answers = (watch kind past).answers ++ answers) ∧
      ∃ snapshots,
        (watch kind (past ++ future)).snapshots = (watch kind past).snapshots ++ snapshots := by
  induction future using List.reverseRecOn with
  | nil => exact ⟨⟨[], by simp⟩, [], by simp⟩
  | append_singleton future last ih =>
      obtain ⟨⟨answers, answered⟩, snapshots, taken⟩ := ih
      rw [← List.append_assoc, watch_concat]
      cases last with
      | snapshot =>
          exact ⟨⟨answers, answered⟩, _, by rw [Watched.turn, taken, List.append_assoc]⟩
      | offered channel offer =>
          exact ⟨⟨_, by rw [Watched.turn, answered, List.append_assoc]⟩, snapshots, taken⟩

/-- The answer to an offer is whether its level improved on the state that it was made to. -/
theorem answer_watch (kind : CorrectionKind) (past : List (Turn α)) (channel : Channel)
    (offer : Offer α) (future : List (Turn α)) :
    (watch kind (past ++ .offered channel offer :: future)).answers[
        (watch kind past).answers.length]? =
      some ((watch kind past).state.improvedBy channel offer.level) := by
  obtain ⟨⟨later, answered⟩, -⟩ :=
    exists_watch_append kind (past ++ [.offered channel offer]) future
  rw [List.append_cons, answered, watch_concat, Watched.turn]
  simp

/-- A snapshot holds the corrections of the state that it was taken of. -/
theorem snapshot_watch (kind : CorrectionKind) (past future : List (Turn α)) :
    (watch kind (past ++ .snapshot :: future)).snapshots[(watch kind past).snapshots.length]? =
      some (watch kind past).state.corrections := by
  obtain ⟨-, later, taken⟩ := exists_watch_append kind (past ++ [.snapshot]) future
  rw [List.append_cons, taken, watch_concat, Watched.turn]
  simp

/-- **The earliest of the lowest, channel by channel.** However offers on both channels and
snapshots follow each other, an offer is taken exactly when its level is a number below infinity
and below every number that was offered earlier on its channel. Of each channel the state holds
the last offer that was taken there, which is the first of the lowest, and how many were taken;
the identity and no level, if none was. A snapshot holds what the state held when it was taken,
whatever is offered later. -/
theorem holds_earliest_minimum [Ordered α] (kind : CorrectionKind) (turns : List (Turn α))
    (channel : Channel) :
    (∀ past offer future, turns = past ++ .offered channel offer :: future →
      ∃ answer, (watch kind turns).answers[(watch kind past).answers.length]? = some answer ∧
        (answer = true ↔ isNumber offer.level ∧ belowInfinity offer.level ∧
          ∀ earlier ∈ Turn.offers channel past, isNumber earlier.level →
            offer.level < earlier.level)) ∧
      (watch kind turns).state.updates.get channel =
        (Offer.records (Turn.offers channel turns)).length ∧
      (Offer.records (Turn.offers channel turns) = [] →
        (watch kind turns).state.corrections.get channel = kind.identity ∧
          (watch kind turns).state.levels.get channel = none) ∧
      (∀ last, (Offer.records (Turn.offers channel turns)).getLast? = some last →
        (watch kind turns).state.corrections.get channel = last.candidate ∧
          (watch kind turns).state.levels.get channel = some last.level ∧
          ∃ before after, Turn.offers channel turns = before ++ last :: after ∧
            (∀ earlier ∈ before, isNumber earlier.level → last.level < earlier.level) ∧
              ∀ other ∈ Turn.offers channel turns, ¬other.level < last.level) ∧
      ∀ past future, turns = past ++ .snapshot :: future →
        ∃ snapshot, (watch kind turns).snapshots[(watch kind past).snapshots.length]? =
            some snapshot ∧
          snapshot.get channel = (watch kind past).state.corrections.get channel := by
  have best := (get_best_watch kind turns channel).trans (BestTracker.replay_eq kind _)
  refine ⟨?_, ?_, ?_, ?_, ?_⟩
  · rintro past offer future rfl
    refine ⟨_, answer_watch kind past channel offer future, ?_⟩
    have held := (get_best_watch kind past channel).trans (BestTracker.replay_eq kind _)
    rw [improvedBy, Offer.improvedBy_iff_undercuts _ (by rw [held]), Offer.undercuts_iff]
    exact ⟨fun ⟨below, lower⟩ => ⟨Ordered.isNumber_of_belowInfinity below, below, lower⟩,
      fun ⟨_, below, lower⟩ => ⟨below, lower⟩⟩
  · rw [updates, PerChannel.get_map, best, Offer.length_records]
  · intro none
    have leaderless : Offer.leader? (Turn.offers channel turns) = Option.none := by
      rw [← Offer.getLast?_records, none, List.getLast?_nil]
    rw [corrections, levels, PerChannel.get_map, PerChannel.get_map, best, Offer.lowest,
      leaderless]
    exact ⟨rfl, rfl⟩
  · intro last final
    rw [Offer.getLast?_records] at final
    rw [corrections, levels, PerChannel.get_map, PerChannel.get_map, best, Offer.lowest, final]
    exact ⟨rfl, rfl, Offer.exists_split_of_leader?_eq_some final⟩
  · rintro past future rfl
    exact ⟨_, snapshot_watch kind past future, rfl⟩

/-- Doubles offered on both channels: no number, a level twice, both infinities, and a snapshot
before the level is repeated. -/
def mixedTurns : List (Turn Float) :=
  [.offered .a ⟨⟨1, 0⟩, Binary64.notNumber⟩, .offered .a ⟨⟨2, 0⟩, 5⟩, .offered .b ⟨⟨3, 0⟩, 1⟩,
    .snapshot, .offered .a ⟨⟨4, 0⟩, 5⟩, .offered .a ⟨⟨5, 0⟩, -Binary64.infinity⟩,
    .offered .b ⟨⟨6, 0⟩, Binary64.infinity⟩]

/-- The repeated level is not taken, negative infinity is, and the snapshot stays behind. -/
theorem holds_earliest_minimum_mixed :
    (watch .dcOffset mixedTurns).answers[3]? = some false ∧
      (watch .dcOffset mixedTurns).state.updates.get .a = 2 ∧
      (watch .dcOffset mixedTurns).state.corrections.get .a = ⟨5, 0⟩ ∧
      (watch .dcOffset mixedTurns).state.levels.get .a = some (-Binary64.infinity) ∧
      ∃ snapshot, (watch .dcOffset mixedTurns).snapshots[0]? = some snapshot ∧
        snapshot.get .a = ⟨2, 0⟩ := by
  obtain ⟨answers, updates, -, final, snapshots⟩ :=
    holds_earliest_minimum .dcOffset mixedTurns .a
  refine ⟨?_, updates, ?_, ?_, ?_⟩
  · obtain ⟨answer, answered, taken⟩ :=
      answers (mixedTurns.take 4) ⟨⟨4, 0⟩, 5⟩ (mixedTurns.drop 5) rfl
    have refused : answer = false := by
      rw [← Bool.not_eq_true, taken]
      rintro ⟨-, -, lower⟩
      exact Ordered.irreflexive (5 : Float) (lower ⟨⟨2, 0⟩, 5⟩ (.tail _ (.head _)) rfl)
    exact refused ▸ answered
  · exact (final ⟨⟨5, 0⟩, -Binary64.infinity⟩ rfl).1
  · exact (final ⟨⟨5, 0⟩, -Binary64.infinity⟩ rfl).2.1
  · exact snapshots (mixedTurns.take 3) (mixedTurns.drop 4) rfl

end SearchState

end LoopbackCalibration
