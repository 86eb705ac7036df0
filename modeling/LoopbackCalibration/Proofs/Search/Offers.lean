import Mathlib.Data.List.Basic
import Mathlib.Data.List.Find
import Mathlib.Data.List.Induction
import Mathlib.Logic.Basic
import LoopbackCalibration.Search.Tracker

/-! # Offers to a tracker

A tracker is offered corrections with the levels measured with them. Comparing levels
is taken to be a strict weak order on the numbers in which infinity is the largest;
what is not a number compares with nothing (`Arithmetic.Ordered`). Then the tracker
holds the *leader* of all offers made to it: the first one that no other undercuts.
-/

namespace LoopbackCalibration

open Arithmetic

/-- The order of the scalars: strict and weak on the numbers, closed under infinity,
and void of what is not a number. -/
class Arithmetic.Ordered (α : Type) [Arithmetic α] : Prop where
  /-- Nothing is below itself. -/
  irreflexive : ∀ value : α, ¬value < value
  /-- Being below is transitive. -/
  transitive : ∀ {first second third : α}, first < second → second < third → first < third
  /-- A number lies above the smaller or below the larger of two scalars. -/
  separated : ∀ {first second : α} (value : α), first < second → isNumber value →
    first < value ∨ value < second
  /-- What lies below a scalar is below infinity. -/
  belowInfinity_of_lt : ∀ {first second : α}, first < second → belowInfinity first
  /-- What is below infinity is a number. -/
  isNumber_of_belowInfinity : ∀ {value : α}, belowInfinity value → isNumber value
  /-- A number that is not below infinity lies above all that are. -/
  lt_of_belowInfinity : ∀ {first second : α}, belowInfinity first → isNumber second →
    ¬belowInfinity second → first < second

/-- A correction with the level measured with it. -/
structure Offer (α : Type) where
  /-- The correction. -/
  candidate : Phasor α
  /-- The level. -/
  level : α

/-- The tracker of a kind after a list of offers, made first to last. -/
def BestTracker.replay {α : Type} [Arithmetic α] (kind : CorrectionKind)
    (offers : List (Offer α)) : BestTracker α :=
  offers.foldl (fun best offer => best.offer offer.candidate offer.level)
    (.initial kind.identity)

theorem BestTracker.replay_concat {α : Type} [Arithmetic α] (kind : CorrectionKind)
    (offers : List (Offer α)) (last : Offer α) :
    replay kind (offers ++ [last]) = (replay kind offers).offer last.candidate last.level := by
  rw [replay, List.foldl_concat, ← replay]

/-- The correction that a tracker of a kind holds after a list of offers. -/
def BestTracker.held {α : Type} [Arithmetic α] (kind : CorrectionKind)
    (offers : List (Offer α)) : Phasor α :=
  (replay kind offers).correction

namespace Offer

variable {α : Type} [Arithmetic α]

/-- Whether an offer is below infinity and no offer of a list has a lower level. -/
def leads (offer : Offer α) (offers : List (Offer α)) : Bool :=
  belowInfinity offer.level && offers.all fun other => !decide (other.level < offer.level)

/-- The first offer of a list that no other one undercuts: the earliest of those with the
lowest level. There is none when no level is below infinity. -/
def leader? (offers : List (Offer α)) : Option (Offer α) :=
  offers.find? (·.leads offers)

/-- Whether an offer is below infinity and below every number among the levels of a
list. -/
def undercuts (offer : Offer α) (offers : List (Offer α)) : Bool :=
  belowInfinity offer.level &&
    offers.all fun other => !isNumber other.level || decide (offer.level < other.level)

/-- How many offers of a list undercut all offers before them. -/
def improvements (offers : List (Offer α)) : Nat :=
  offers.zipIdx.countP fun (offer, index) => offer.undercuts (offers.take index)

/-- The correction of the leader, or the identity of a kind when there is none. -/
def lowest (kind : CorrectionKind) (offers : List (Offer α)) : Phasor α :=
  ((leader? offers).map Offer.candidate).getD kind.identity

theorem leads_iff {offer : Offer α} {offers : List (Offer α)} :
    offer.leads offers ↔
      belowInfinity offer.level ∧ ∀ other ∈ offers, ¬other.level < offer.level := by
  simp only [leads, Bool.and_eq_true, List.all_eq_true, Bool.not_eq_true', decide_eq_false_iff_not]

theorem undercuts_iff {offer : Offer α} {offers : List (Offer α)} :
    offer.undercuts offers ↔
      belowInfinity offer.level ∧
        ∀ other ∈ offers, isNumber other.level → offer.level < other.level := by
  simp only [undercuts, Bool.and_eq_true, List.all_eq_true, Bool.or_eq_true, Bool.not_eq_true',
    decide_eq_true_eq, ← Bool.not_eq_true, imp_iff_not_or]

theorem leader?_eq_some {offers : List (Offer α)} {best : Offer α}
    (leader : leader? offers = some best) : best ∈ offers ∧ best.leads offers := by
  refine ⟨List.mem_of_find?_eq_some leader, ?_⟩
  exact List.find?_some (p := fun offer : Offer α => offer.leads offers) leader

theorem improvements_concat (offers : List (Offer α)) (last : Offer α) :
    improvements (offers ++ [last]) =
      improvements offers + if last.undercuts offers then 1 else 0 := by
  have earlier : (offers.zipIdx.countP fun (offer, index) =>
      offer.undercuts ((offers ++ [last]).take index)) = improvements offers := by
    refine List.countP_congr fun (offer, index) member => ?_
    have within : index < offers.length := by
      simpa using (List.mem_zipIdx member).2.1
    simp only [List.take_append_of_le_length (Nat.le_of_lt within)]
  rw [improvements, List.zipIdx_append, List.countP_append, earlier]
  simp [List.zipIdx, List.countP_cons]

section Leader

variable [Ordered α]

private theorem undercuts_of_lt {offers : List (Offer α)} {best last : Offer α}
    (leads : best.leads offers) (below : last.level < best.level) : last.undercuts offers := by
  refine undercuts_iff.mpr ⟨Ordered.belowInfinity_of_lt below, fun other member number => ?_⟩
  exact (Ordered.separated other.level below number).resolve_right
    ((leads_iff.mp leads).2 other member)

/-- An offer below infinity has a leader before or beside it. -/
theorem not_belowInfinity_of_leader?_eq_none {offers : List (Offer α)}
    (none : leader? offers = none) : ∀ offer ∈ offers, ¬belowInfinity offer.level := by
  induction offers using List.reverseRecOn with
  | nil => exact fun _ member => (List.not_mem_nil member).elim
  | append_singleton offers last ih =>
      have leaderless := List.find?_eq_none.mp none
      rcases leader : leader? offers with _ | best
      · have finite := ih leader
        have ends : ¬belowInfinity last.level := by
          intro below
          refine leaderless last (by simp) (leads_iff.mpr ⟨below, fun other member less => ?_⟩)
          rcases List.mem_append.mp member with earlier | same
          · exact finite other earlier (Ordered.belowInfinity_of_lt less)
          · rw [List.mem_singleton.mp same] at less
            exact Ordered.irreflexive _ less
        intro offer member
        rcases List.mem_append.mp member with earlier | same
        · exact finite offer earlier
        · exact List.mem_singleton.mp same ▸ ends
      · obtain ⟨present, leads⟩ := leader?_eq_some leader
        obtain ⟨below, unbeaten⟩ := leads_iff.mp leads
        exfalso
        by_cases less : last.level < best.level
        · refine leaderless last (by simp) (leads_iff.mpr
            ⟨Ordered.belowInfinity_of_lt less, fun other member lower => ?_⟩)
          rcases List.mem_append.mp member with earlier | same
          · exact unbeaten other earlier (Ordered.transitive lower less)
          · rw [List.mem_singleton.mp same] at lower
            exact Ordered.irreflexive _ lower
        · refine leaderless best (by simp [present]) (leads_iff.mpr ⟨below, fun other member => ?_⟩)
          rcases List.mem_append.mp member with earlier | same
          · exact unbeaten other earlier
          · exact List.mem_singleton.mp same ▸ less

/-- One more offer takes the lead exactly when it undercuts all offers before it. -/
theorem leader?_concat (offers : List (Offer α)) (last : Offer α) :
    leader? (offers ++ [last]) =
      if last.undercuts offers then some last else leader? offers := by
  rw [leader?, List.find?_append]
  by_cases undercuts : last.undercuts offers
  · obtain ⟨below, above⟩ := undercuts_iff.mp undercuts
    have beaten : offers.find? (·.leads (offers ++ [last])) = none := by
      apply List.find?_eq_none.mpr
      intro offer member leads
      obtain ⟨finite, unbeaten⟩ := leads_iff.mp leads
      exact unbeaten last (by simp)
        (above offer member (Ordered.isNumber_of_belowInfinity finite))
    have leads : last.leads (offers ++ [last]) := by
      refine leads_iff.mpr ⟨below, fun other member lower => ?_⟩
      rcases List.mem_append.mp member with earlier | same
      · have number := Ordered.isNumber_of_belowInfinity (Ordered.belowInfinity_of_lt lower)
        exact Ordered.irreflexive _ (Ordered.transitive (above other earlier number) lower)
      · rw [List.mem_singleton.mp same] at lower
        exact Ordered.irreflexive _ lower
    rw [beaten, Option.none_or, if_pos undercuts, List.find?_singleton, if_pos leads]
  · have kept : offers.find? (·.leads (offers ++ [last])) = leader? offers := by
      refine List.find?_congr fun offer member => Bool.eq_iff_iff.mpr ?_
      rw [leads_iff, leads_iff]
      refine and_congr_right fun below => ⟨fun unbeaten other earlier =>
        unbeaten other (List.mem_append_left _ earlier), fun unbeaten other member => ?_⟩
      rcases List.mem_append.mp member with earlier | same
      · exact unbeaten other earlier
      · rw [List.mem_singleton.mp same]
        exact fun less => undercuts (undercuts_of_lt (leads_iff.mpr ⟨below, unbeaten⟩) less)
    rw [kept, if_neg undercuts]
    rcases leader : leader? offers with _ | best
    · have finite := not_belowInfinity_of_leader?_eq_none leader
      have silent : ¬last.leads (offers ++ [last]) := by
        intro leads
        have below := (leads_iff.mp leads).1
        exact undercuts (undercuts_iff.mpr ⟨below, fun other member number =>
          Ordered.lt_of_belowInfinity below number (finite other member)⟩)
      rw [Option.none_or, List.find?_singleton, if_neg silent]
    · rfl

/-- Whether a tracker takes an offer depends on the leader alone. -/
theorem improvedBy_iff_undercuts (best : BestTracker α) {offers : List (Offer α)}
    (tracks : best.level = (leader? offers).map Offer.level) (offer : Offer α) :
    best.improvedBy offer.level ↔ offer.undercuts offers := by
  unfold BestTracker.improvedBy
  rw [tracks]
  rcases leader : leader? offers with _ | lead
  · have finite := not_belowInfinity_of_leader?_eq_none leader
    exact ⟨fun below => undercuts_iff.mpr ⟨below, fun other member number =>
      Ordered.lt_of_belowInfinity below number (finite other member)⟩,
      fun undercuts => (undercuts_iff.mp undercuts).1⟩
  · obtain ⟨present, leads⟩ := leader?_eq_some leader
    refine ⟨fun less => undercuts_of_lt leads (of_decide_eq_true less), fun undercuts => ?_⟩
    exact decide_eq_true ((undercuts_iff.mp undercuts).2 lead present
      (Ordered.isNumber_of_belowInfinity (leads_iff.mp leads).1))

end Leader

end Offer

/-- A tracker that has taken an offer holds one that it was made. -/
theorem BestTracker.mem_of_replay {α : Type} [Arithmetic α] (kind : CorrectionKind)
    (offers : List (Offer α)) (taken : 0 < (replay kind offers).updates) :
    ∃ offer ∈ offers, (replay kind offers).correction = offer.candidate ∧
      (replay kind offers).level = some offer.level := by
  induction offers using List.reverseRecOn with
  | nil => exact (Nat.lt_irrefl 0 taken).elim
  | append_singleton offers last ih =>
      rw [replay_concat, BestTracker.offer] at taken ⊢
      split at taken
      · rw [if_pos ‹_›]
        exact ⟨last, by simp, rfl, rfl⟩
      · rw [if_neg ‹_›]
        obtain ⟨offer, member, held⟩ := ih taken
        exact ⟨offer, List.mem_append_left _ member, held⟩

/-- A tracker that has taken no offer has no level. -/
theorem BestTracker.level_replay_eq_none {α : Type} [Arithmetic α] (kind : CorrectionKind)
    (offers : List (Offer α)) (untaken : (replay kind offers).updates = 0) :
    (replay kind offers).level = none := by
  induction offers using List.reverseRecOn with
  | nil => rfl
  | append_singleton offers last ih =>
      rw [replay_concat, BestTracker.offer] at untaken ⊢
      split at untaken
      · exact (Nat.succ_ne_zero _ untaken).elim
      · rw [if_neg ‹_›]
        exact ih untaken

theorem BestTracker.improvedBy_eq_of_level {α : Type} [Arithmetic α] {best : BestTracker α}
    {lowest : α} (held : best.level = some lowest) (level : α) :
    best.improvedBy level = decide (level < lowest) := by
  rw [improvedBy, held]

section Tracker

variable {α : Type} [Arithmetic α] [Ordered α]

/-- **A tracker holds the leader.** After any list of offers the tracker has the
correction and the level of the leader, and has counted the improvements. -/
theorem BestTracker.replay_eq (kind : CorrectionKind)
    (offers : List (Offer α)) :
    replay kind offers =
      ⟨Offer.lowest kind offers, (Offer.leader? offers).map Offer.level,
        Offer.improvements offers⟩ := by
  induction offers using List.reverseRecOn with
  | nil => rfl
  | append_singleton offers last ih =>
      have taken := Offer.improvedBy_iff_undercuts (replay kind offers) (by rw [ih]) last
      rw [replay_concat, offer, Offer.lowest, Offer.leader?_concat, Offer.improvements_concat]
      by_cases undercuts : last.undercuts offers
      · rw [if_pos (taken.mpr undercuts), if_pos undercuts, if_pos undercuts, ih]
        rfl
      · rw [if_neg (fun improved => undercuts (taken.mp improved)), if_neg undercuts,
          if_neg undercuts, ih]
        rfl

/-- What improves on a tracker is below what does not. -/
private theorem BestTracker.not_lt_of_improvedBy {best : BestTracker α} {better worse : α}
    (improved : best.improvedBy better) (kept : ¬best.improvedBy worse) : ¬worse < better := by
  intro below
  unfold improvedBy at improved kept
  rcases held : best.level with _ | lowest <;> rw [held] at improved kept
  · exact kept (Ordered.belowInfinity_of_lt below)
  · exact kept (decide_eq_true (Ordered.transitive below (of_decide_eq_true improved)))

/-- A tracker keeps what it holds when no offer of a list improves on it, and otherwise
ends with an offer that no other one of the list undercuts. -/
theorem BestTracker.foldl_offer (best : BestTracker α) (offers : List (Offer α)) :
    let after := offers.foldl (fun best offer => best.offer offer.candidate offer.level) best
    (after = best ∧ ∀ offer ∈ offers, ¬best.improvedBy offer.level) ∨
      ∃ offer ∈ offers, after.correction = offer.candidate ∧ after.level = some offer.level ∧
        ∀ other ∈ offers, ¬other.level < offer.level := by
  induction offers using List.reverseRecOn with
  | nil => exact .inl ⟨rfl, List.forall_mem_nil _⟩
  | append_singleton offers last ih =>
      intro after
      have grown : after = (offers.foldl
          (fun best offer => best.offer offer.candidate offer.level) best).offer
            last.candidate last.level := List.foldl_concat ..
      simp only [List.forall_mem_append, List.forall_mem_singleton]
      rcases ih with ⟨same, kept⟩ | ⟨offer, member, correction, level, unbeaten⟩
      · rw [same, BestTracker.offer] at grown
        by_cases improved : best.improvedBy last.level
        · rw [if_pos improved] at grown
          exact .inr ⟨last, by simp, by rw [grown], by rw [grown], fun other earlier =>
            not_lt_of_improvedBy improved (kept other earlier), Ordered.irreflexive _⟩
        · rw [if_neg improved] at grown
          exact .inl ⟨grown, kept, improved⟩
      · rw [BestTracker.offer, improvedBy_eq_of_level level] at grown
        by_cases below : last.level < offer.level
        · rw [if_pos (decide_eq_true below)] at grown
          exact .inr ⟨last, by simp, by rw [grown], by rw [grown], fun other earlier less =>
            unbeaten other earlier (Ordered.transitive less below), Ordered.irreflexive _⟩
        · rw [if_neg (by simpa using below)] at grown
          exact .inr ⟨offer, List.mem_append_left _ member, by rw [grown, correction],
            by rw [grown, level], unbeaten, below⟩

end Tracker

end LoopbackCalibration
