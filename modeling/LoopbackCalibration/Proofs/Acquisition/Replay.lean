import LoopbackCalibration.Device.Acquisition

/-! # Replayed captures

What a capture comes to depends on its *rounds* alone: on the stop request, the reading of
the clock and the outcome of the read in each of them. `Acquisition.replay?` is the loop of
a capture over given rounds. A rig has only so much patience, and this leaves nothing out:
whatever rounds the loop ends over, some rig shows them (`Acquisition.exists_collect_iff`).
-/

namespace LoopbackCalibration

namespace Acquisition

variable {σ η α : Type}

/-- What a capture sees in one round, as far as it looks. -/
structure Round (α : Type) where
  stopRequested : Bool
  instant : Nat
  outcome : Except StatusCode (Delivery α)

/-- Rounds that are still to be shown. After the last one every read times out, and a clock
runs on. -/
structure Reel (α : Type) where
  rounds : List (Round α)
  clock : Nat

/-- A rig that shows rounds one after the other, whatever is asked of it. -/
def Reel.rig : Rig (Reel α) Unit α where
  description _ := "Reel"
  command _ := Action.pure ()
  openStream _ := Action.pure ()
  activate _ _ := Action.pure ()
  closeStream _ := Action.pure ()
  read _ _ _ := fun reel =>
    match reel.rounds with
    | [] => (.error .timeout, { reel with clock := reel.clock + 1 })
    | round :: rounds => (round.outcome, { reel with rounds })
  now reel := (reel.rounds.head?.elim reel.clock Round.instant, reel)
  stopRequested reel := reel.rounds.head?.any Round.stopRequested
  patience _ room instant reel := room + reel.rounds.length + (instant - reel.clock)
  patience_lt _ room instant _ reel rest _ early goesOn := by
    have most : rest ≤ room := Delivery.missing_le goesOn
    rcases reel with ⟨_ | ⟨round, rounds⟩, clock⟩
    · have before : clock < instant := early
      dsimp only
      omega
    · simp only [List.length_cons]
      omega

namespace Reel

variable (round : Round α) (rounds : List (Round α)) (clock : Nat)

private theorem stopRequested_cons :
    Reel.rig.stopRequested ⟨round :: rounds, clock⟩ = round.stopRequested := rfl

private theorem now_cons :
    Reel.rig.now ⟨round :: rounds, clock⟩ = (round.instant, ⟨round :: rounds, clock⟩) := rfl

private theorem read_cons (rooms : List Nat) (wait : Duration) :
    Reel.rig.read () rooms wait ⟨round :: rounds, clock⟩ =
      (round.outcome, ⟨rounds, clock⟩) := rfl

/-- A read shows one of the rounds, or that none are left. -/
theorem shows_of_read {rooms : List Nat} {wait : Duration} {reel after : Reel α}
    {outcome : Except StatusCode (Delivery α)}
    (read : Reel.rig.read () rooms wait reel = (outcome, after)) :
    (outcome = .error .timeout ∨ ∃ round ∈ reel.rounds, round.outcome = outcome) ∧
      after.rounds ⊆ reel.rounds := by
  rcases reel with ⟨_ | ⟨round, rounds⟩, clock⟩
  · cases read
    exact ⟨.inl rfl, List.Subset.refl _⟩
  · cases read
    exact ⟨.inr ⟨round, List.mem_cons_self, rfl⟩, List.subset_cons_self _ _⟩

end Reel

variable [Arithmetic α]

/-- The loop of a capture over the rounds that it sees. There is no result while samples are
missing after the last of them. -/
def replay? (options : AcquisitionOptions) (requested deadline : Nat) :
    List (Round α) → RawCapture α → Option (Except AcquisitionError (RawCapture α))
  | [], raw => if requested ≤ raw.size then some (.ok raw) else none
  | round :: rounds, raw =>
    if requested ≤ raw.size then
      some (.ok raw)
    else if options.cancelled || round.stopRequested then
      some (.error (.cancelled raw.size))
    else if deadline ≤ round.instant then
      some (.error (.timeout raw.size requested options.timeout))
    else
      match round.outcome with
      | .ok delivery =>
        replay? options requested deadline rounds
          (raw.append delivery (min delivery.count (requested - raw.size)))
      | .error status =>
        if status.isTimeout then
          replay? options requested deadline rounds raw
        else
          some (.error (.readStatus status raw.size))

/-- A capture replays the rounds of its loop. -/
theorem exists_replay (rig : Rig σ η α) (stream : η) (options : AcquisitionOptions)
    (requested deadline : Nat) (raw : RawCapture α) (world : σ) :
    ∃ rounds, replay? options requested deadline rounds raw =
      some (collect rig stream options requested deadline raw world).1 := by
  fun_induction collect rig stream options requested deadline raw world with
  | case1 raw world complete => exact ⟨[], if_pos complete⟩
  | case2 raw world missing stopped =>
      exact ⟨[⟨rig.stopRequested world, 0, .error .timeout⟩],
        (if_neg missing).trans (if_pos stopped)⟩
  | case3 raw world missing wanted instant looked look late =>
      exact ⟨[⟨rig.stopRequested world, instant, .error .timeout⟩],
        (if_neg missing).trans ((if_neg wanted).trans (if_pos late))⟩
  | case4 raw world missing wanted instant looked look early room wait delivery after read ih =>
      obtain ⟨rounds, replayed⟩ := ih
      refine ⟨⟨rig.stopRequested world, instant, .ok delivery⟩ :: rounds, ?_⟩
      rw [replay?, if_neg missing, if_neg wanted, if_neg early]
      exact replayed
  | case5 raw world missing wanted instant looked look early room wait status after read again
      ih =>
      obtain ⟨rounds, replayed⟩ := ih
      refine ⟨⟨rig.stopRequested world, instant, .error status⟩ :: rounds, ?_⟩
      rw [replay?, if_neg missing, if_neg wanted, if_neg early]
      exact (if_pos again).trans replayed
  | case6 raw world missing wanted instant looked look early room wait status after read fatal =>
      refine ⟨[⟨rig.stopRequested world, instant, .error status⟩], ?_⟩
      rw [replay?, if_neg missing, if_neg wanted, if_neg early]
      exact if_neg fatal

/-- On a reel of rounds over which the loop ends, a capture ends the same way. Induction on
the rounds. -/
theorem collect_reel {options : AcquisitionOptions} {requested deadline : Nat}
    {rounds : List (Round α)} {raw : RawCapture α}
    {result : Except AcquisitionError (RawCapture α)} (clock : Nat)
    (replayed : replay? options requested deadline rounds raw = some result) :
    (collect Reel.rig () options requested deadline raw ⟨rounds, clock⟩).1 = result := by
  fun_induction replay? options requested deadline rounds raw with
  | case1 raw complete =>
      cases replayed
      rw [collect_complete _ _ _ complete]
  | case2 raw missing => cases replayed
  | case3 round rounds raw complete =>
      cases replayed
      rw [collect_complete _ _ _ complete]
  | case4 round rounds raw missing stopped =>
      cases replayed
      rw [collect_eq, if_neg missing, Reel.stopRequested_cons, if_pos stopped]
  | case5 round rounds raw missing wanted late =>
      cases replayed
      rw [collect_eq, if_neg missing, Reel.stopRequested_cons, if_neg wanted, Reel.now_cons,
        if_pos late]
  | case6 round rounds raw missing wanted early delivery outcome ih =>
      rw [collect_of_read missing wanted (Reel.now_cons ..) early (Reel.read_cons ..), outcome]
      exact ih replayed
  | case7 round rounds raw missing wanted early status outcome again ih =>
      rw [collect_of_read missing wanted (Reel.now_cons ..) early (Reel.read_cons ..), outcome]
      exact (congrArg Prod.fst (if_pos again)).trans (ih replayed)
  | case8 round rounds raw missing wanted early status outcome fatal =>
      cases replayed
      rw [collect_of_read missing wanted (Reel.now_cons ..) early (Reel.read_cons ..), outcome]
      exact congrArg Prod.fst (if_neg fatal)

/-- **Patience leaves nothing out.** The loop of a capture comes to a result on some rig
exactly when it comes to it over some rounds, whatever these show. -/
theorem exists_collect_iff {options : AcquisitionOptions} {requested deadline : Nat}
    {raw : RawCapture α} {result : Except AcquisitionError (RawCapture α)} :
    (∃ (σ η : Type) (rig : Rig σ η α) (stream : η) (world : σ),
        (collect rig stream options requested deadline raw world).1 = result) ↔
      ∃ rounds, replay? options requested deadline rounds raw = some result := by
  constructor
  · rintro ⟨σ, η, rig, stream, world, rfl⟩
    exact exists_replay rig stream options requested deadline raw world
  · rintro ⟨rounds, replayed⟩
    exact ⟨_, _, Reel.rig, (), ⟨rounds, 0⟩, collect_reel 0 replayed⟩

end Acquisition

end LoopbackCalibration
