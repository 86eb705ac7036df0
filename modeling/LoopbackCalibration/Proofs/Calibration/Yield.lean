import Mathlib.Data.List.Induction
import LoopbackCalibration.Proofs.Calibration.Ledger

/-! # What the calls of a run yield

The captures that a run has completed, and the samples that the last one holds, can be told from
its calls. So can the places where the run looks at the stop request: it does so after each call
that leaves a capture in progress and not complete (`Checks`).
-/

namespace LoopbackCalibration

variable {η α : Type}

namespace Event

/-- The call is a read. -/
def IsRead : Event η α → Prop
  | .read .. => True
  | _ => False

/-- A burst has been started, or a read brought samples or is to be tried again. -/
def Bursts : Event η α → Prop
  | .activated _ _ (.ok _) => True
  | .read _ _ _ (.ok _) => True
  | .read _ _ _ (.error status) => status.isTimeout
  | _ => False

end Event

/-- Captures completed, and samples per channel that the last one holds. -/
structure Yield where
  complete : Nat
  held : Nat

namespace Yield

/-- The yield after a call, where a capture is to have so many samples. -/
def after (requested : Nat) (yield : Yield) : Event η α → Yield
  | .activated _ _ (.ok _) => { yield with held := 0 }
  | .read _ _ _ (.ok delivery) =>
    let held := yield.held + min delivery.count (requested - yield.held)
    ⟨if held < requested then yield.complete else yield.complete + 1, held⟩
  | _ => yield

/-- What the calls of a run yield. -/
def ofEntries (requested : Nat) (entries : List (Entry η α)) : Yield :=
  entries.foldl (fun yield entry => yield.after requested entry.event) ⟨0, 0⟩

variable {requested : Nat} {entries more : List (Entry η α)} {entry : Entry η α}

@[simp] theorem ofEntries_concat :
    ofEntries requested (entries ++ [entry]) = (ofEntries requested entries).after requested
      entry.event := by
  simp only [ofEntries, List.foldl_append, List.foldl_cons, List.foldl_nil]

theorem complete_le_after (yield : Yield) (event : Event η α) :
    yield.complete ≤ (yield.after requested event).complete := by
  unfold after
  split
  · exact Nat.le_refl _
  · dsimp only
    split
    · exact Nat.le_refl _
    · exact Nat.le_succ _
  · exact Nat.le_refl _

theorem after_complete_of_not_read (yield : Yield) {event : Event η α} (other : ¬event.IsRead) :
    (yield.after requested event).complete = yield.complete := by
  unfold after
  split
  · rfl
  · exact absurd trivial other
  · rfl

theorem complete_le_append :
    (ofEntries requested entries).complete ≤ (ofEntries requested (entries ++ more)).complete := by
  induction more using List.reverseRecOn with
  | nil => exact (List.append_nil entries).symm ▸ Nat.le_refl _
  | append_singleton more last ih =>
      rw [← List.append_assoc, ofEntries_concat]
      exact Nat.le_trans ih (complete_le_after _ _)

theorem complete_append_of_unread (unread : ∀ entry ∈ more, ¬entry.event.IsRead) :
    (ofEntries requested (entries ++ more)).complete = (ofEntries requested entries).complete := by
  induction more using List.reverseRecOn with
  | nil => rw [List.append_nil]
  | append_singleton more last ih =>
      rw [← List.append_assoc, ofEntries_concat,
        after_complete_of_not_read _ (unread last (by simp))]
      exact ih fun entry member => unread entry (List.mem_append_left _ member)

end Yield

/-- The calls so far are followed by a look at the stop request: a capture is in progress and not
complete. -/
def Checks (requested : Nat) (calls : List (Entry η α)) : Prop :=
  (Yield.ofEntries requested calls).held < requested ∧
    ∃ last ∈ calls.getLast?, last.event.Bursts

/-- From a moment on, the run has not looked at the stop request before the last of the calls. -/
def Unchecked (requested moment : Nat) (calls : List (Entry η α)) : Prop :=
  ∀ made, moment ≤ made → made < calls.length → ¬Checks requested (calls.take made)

theorem Unchecked.concat {requested moment : Nat} {calls : List (Entry η α)} {entry : Entry η α}
    (unchecked : Unchecked requested moment calls)
    (here : moment ≤ calls.length → ¬Checks requested calls) :
    Unchecked requested moment (calls ++ [entry]) := by
  intro made later within
  have bounded : made ≤ calls.length := by
    rw [List.length_append, List.length_singleton] at within
    omega
  rw [List.take_append_of_le_length bounded]
  rcases Nat.lt_or_eq_of_le bounded with earlier | rfl
  · exact unchecked made later earlier
  · rw [List.take_length]
    exact here later

/-- None of the calls after so many first ones is a read. -/
def Unread (moment : Nat) (calls : List (Entry η α)) : Prop :=
  ∀ entry ∈ calls.drop moment, ¬entry.event.IsRead

theorem Unread.concat {moment : Nat} {calls : List (Entry η α)} {entry : Entry η α}
    (unread : Unread moment calls) (here : moment ≤ calls.length → ¬entry.event.IsRead) :
    Unread moment (calls ++ [entry]) := by
  intro later member
  rw [List.drop_append] at member
  rcases List.mem_append.mp member with before | last
  · exact unread later before
  · by_cases reached : moment ≤ calls.length
    · rw [Nat.sub_eq_zero_of_le reached, List.drop_zero] at last
      exact List.mem_singleton.mp last ▸ here reached
    · rw [List.drop_of_length_le (by simp; omega)] at last
      cases last

end LoopbackCalibration
