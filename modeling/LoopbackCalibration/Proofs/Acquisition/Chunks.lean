import Mathlib.Algebra.Order.Floor.Div
import Mathlib.Tactic.SplitIfs
import LoopbackCalibration.Device.Acquisition
import LoopbackCalibration.Proofs.Action.Ensures

/-! # Captures in chunks

A device may bring a burst in chunks of a limited size. As long as every read brings all that
it can, a capture takes as many reads as the burst has chunks, and looks at the clock once
before the first of them and once before each (`Rig.Chunks.acquire`). It ends earlier only if
one of these looks shows the deadline or a later instant (`Acquisition.Elapses`).
-/

namespace LoopbackCalibration

open Action

variable {σ η α ε : Type}

/-- One of so many looks after the look `first` shows the deadline that was set at it, or a
later instant. -/
def Acquisition.Elapses (clock : Nat → Nat) (timeout : Duration) (reads first : Nat) : Prop :=
  ∃ later, first < later ∧ later ≤ first + reads ∧
    clock first + timeout.nanoseconds ≤ clock later

/-- A rig on which a burst goes on: `left burst reads looks` holds while so many samples are
left of the burst, the device has been read so often and the clock looked at so often. A read
brings as many samples as there are, up to a limit. -/
structure Rig.Chunks (rig : Rig σ η α) (stream : η) (limit : Nat) (clock : Nat → Nat)
    (left : Nat → Nat → Nat → σ → Prop) : Prop where
  read : ∀ burst reads looks wait, 0 < burst →
    Ensures (left burst reads looks) (rig.read stream [burst, burst] wait)
      (fun delivery world => min delivery.count burst = min limit burst ∧
        left (burst - min limit burst) (reads + 1) looks world) fun _ _ => False
  now : ∀ burst reads looks world, left burst reads looks world →
    (rig.now world).1 = clock looks ∧ left burst reads (looks + 1) (rig.now world).2
  stopRequested : ∀ burst reads looks world, left burst reads looks world →
    rig.stopRequested world = false

/-- A burst goes on, and the clock has been looked at since its look `first`. -/
def Acquisition.Underway (left : Nat → Nat → Nat → σ → Prop) (first : Nat) (world : σ) : Prop :=
  ∃ burst reads looks, first < looks ∧ left burst reads looks world

/-- What stops a computation is the deadline that was set at the look `first` for a capture of
so many reads: it elapses, or the clock cannot show it. -/
def Halt.Misses (expired : ε → Prop) (clock : Nat → Nat) (timeout : Duration)
    (reads first : Nat) : Halt ε → Prop
  | .error cause => expired cause ∧ Acquisition.Elapses clock timeout reads first
  | .overflow => Acquisition.horizon ≤ clock first + timeout.nanoseconds

namespace Acquisition

/-- One chunk less after one read. -/
theorem ceilDiv_eq_succ {burst limit : Nat} (some : 0 < burst) (chunk : 0 < limit) :
    burst ⌈/⌉ limit = (burst - min limit burst) ⌈/⌉ limit + 1 := by
  rw [Nat.ceilDiv_eq_add_pred_div, Nat.ceilDiv_eq_add_pred_div,
    show burst + limit - 1 = burst - 1 + limit by omega, Nat.add_div_right _ chunk]
  congr 1
  rcases Nat.le_total burst limit with last | more
  · rw [Nat.div_eq_of_lt (by omega), Nat.div_eq_of_lt (by omega)]
  · congr 1
    omega

variable [Arithmetic α] {rig : Rig σ η α} {stream : η} {limit : Nat} {clock : Nat → Nat}
  {left : Nat → Nat → Nat → σ → Prop} {options : AcquisitionOptions}

/-- The loop takes one read for each chunk that is left. Induction on the samples missing. -/
private theorem ensures_collect_chunks (chunks : rig.Chunks stream limit clock left)
    (chunk : 0 < limit) (wanted : options.cancelled = false) {requested first total : Nat}
    (missing : Nat) (raw : RawCapture α) (whole : raw.size + missing = requested)
    (reads looks : Nat) (since : first < looks)
    (ahead : looks + missing ⌈/⌉ limit = first + 1 + total) :
    Ensures (left missing reads looks)
      (collect rig stream options requested (clock first + options.timeout.nanoseconds) raw)
      (fun _ => left 0 (reads + missing ⌈/⌉ limit) (looks + missing ⌈/⌉ limit))
      fun cause world => Underway left first world ∧ cause.isTimeout ∧
        Elapses clock options.timeout total first := by
  induction missing using Nat.strongRecOn generalizing raw reads looks with
  | ind missing ih =>
      intro world holds
      rw [collect_eq]
      rcases Nat.eq_zero_or_pos missing with rfl | some
      · rw [if_pos (by omega)]
        simpa using holds
      · obtain ⟨reading, looked⟩ := chunks.now missing reads looks world holds
        have fewer := ceilDiv_eq_succ some chunk
        have room : requested - raw.size = missing := by omega
        simp only [if_neg (show ¬requested ≤ raw.size by omega), wanted,
          chunks.stopRequested missing reads looks world holds, reading, room, Bool.or_self,
          Bool.false_eq_true, if_false]
        split_ifs with late
        · exact ⟨⟨_, _, _, Nat.lt_succ_of_lt since, looked⟩, rfl, looks, since, by omega, late⟩
        · have brought := chunks.read missing reads (looks + 1)
            ⟨min options.readTimeout.nanoseconds (clock first + options.timeout.nanoseconds -
              clock looks)⟩ some _ looked
          rcases outcome : rig.read stream [missing, missing] _ (rig.now world).2 with
            ⟨status | delivery, after⟩ <;> rw [outcome] at brought
          · exact brought.elim
          · obtain ⟨count, rest⟩ := brought
            dsimp only
            have next := ih (missing - min limit missing) (by omega)
              (raw.append delivery (min delivery.count missing))
              (by rw [RawCapture.size_append]; omega) (reads + 1) (looks + 1) (by omega)
              (by omega) after rest
            rwa [show reads + 1 + (missing - min limit missing) ⌈/⌉ limit =
                reads + missing ⌈/⌉ limit by omega,
              show looks + 1 + (missing - min limit missing) ⌈/⌉ limit =
                looks + missing ⌈/⌉ limit by omega] at next

end Acquisition

open Acquisition in
/-- **The work of a capture.** A capture takes one read for each chunk, and looks at the clock
once more than that, unless the clock shows an instant at the deadline or past it, or cannot
show the deadline. -/
theorem Rig.Chunks.acquire [Arithmetic α] {rig : Rig σ η α} {stream : η} {limit : Nat}
    {clock : Nat → Nat} {left : Nat → Nat → Nat → σ → Prop} {options : AcquisitionOptions}
    (chunks : rig.Chunks stream limit clock left) (chunk : 0 < limit)
    (wanted : options.cancelled = false) {requested reads looks : Nat} {before : σ → Prop}
    (activates : Ensures before (rig.activate stream requested)
      (fun _ => left requested reads looks) fun _ _ => False)
    (fits : requested ≤ capacity) :
    Ensures before (acquire rig stream requested options)
      (fun _ => left 0 (reads + requested ⌈/⌉ limit) (looks + 1 + requested ⌈/⌉ limit))
      fun halt world => Underway left looks world ∧
        halt.Misses (fun cause => cause.isTimeout) clock options.timeout (requested ⌈/⌉ limit)
          looks := by
  intro world holds
  have started := activates world holds
  unfold Acquisition.acquire
  rcases outcome : rig.activate stream requested world with ⟨_ | _, active⟩ <;>
    rw [outcome] at started
  · exact started.elim
  · obtain ⟨reading, looked⟩ := chunks.now requested reads looks active started
    simp only [reading, if_neg (show ¬capacity < requested by omega)]
    split_ifs with excess
    · exact ⟨⟨_, _, _, Nat.lt_succ_self looks, looked⟩, excess⟩
    have collected := ensures_collect_chunks chunks chunk wanted requested .empty (Nat.zero_add _)
      reads (looks + 1) (Nat.lt_succ_self looks) rfl _ looked
    rcases outcome' : collect rig stream options requested _ _ _ with ⟨cause | raw, after⟩ <;>
      rw [outcome'] at collected <;> exact collected

end LoopbackCalibration
