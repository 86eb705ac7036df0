import Mathlib.Algebra.Order.Ring.Nat
import LoopbackCalibration.Spectrum

/-! # The levels of a spectrum

A capture that fills a frame has a level for each bin of an even transform
(`Spectrum.exists_levels`). What holds of the power of every bin of every frame, and passes to
sums, holds of the powers that the levels are taken of (`Spectrum.forall_mem_sumPowers`).
-/

namespace LoopbackCalibration

variable {α : Type} [Scalar α]

namespace Spectrum

@[simp] theorem size_framePowers (window : Array α) (offset : α) (samples : Array (Phasor α))
    (start : Nat) : (framePowers window offset samples start).size = window.size := by
  simp [framePowers]

@[simp] theorem size_sumPowers (window : Array α) (samples : Array (Phasor α)) (frames : Nat) :
    (sumPowers window samples frames).size = window.size := by
  unfold sumPowers
  induction frames with
  | zero => simp
  | succ frames ih => simp [Nat.fold_succ, ih]

theorem levels_of_enough {samples : Array (Phasor α)} {size : Nat} (positive : 0 < size)
    (even : size % 2 = 0) (enough : size ≤ samples.size) :
    levels samples size = .ok ((sumPowers (Window.hann size) samples
      (samples.size / size)).map fun power => Arithmetic.ofCount 10 *
        Scalar.log10 (power / Arithmetic.ofCount (samples.size / size))) := by
  have frames : samples.size / size ≠ 0 := (Nat.div_pos enough positive).ne'
  simp only [levels]
  rw [if_neg (by omega), if_neg frames]

theorem exists_levels {samples : Array (Phasor α)} {size : Nat} (positive : 0 < size)
    (even : size % 2 = 0) (enough : size ≤ samples.size) :
    ∃ bins, levels samples size = .ok bins ∧ bins.size = size :=
  ⟨_, levels_of_enough positive even enough, by simp⟩

/-- By induction on the frames after the first one. -/
theorem forall_mem_sumPowers {kind : α → Prop} {window : Array α} {samples : Array (Phasor α)}
    {frames : Nat} (positive : 0 < frames) (start : ∀ power, kind power → kind (0 + power))
    (sum : ∀ total power, kind total → kind power → kind (total + power))
    (each : ∀ first, ∀ power ∈ framePowers window (reference window) samples first, kind power) :
    ∀ total ∈ sumPowers window samples frames, kind total := by
  obtain ⟨more, rfl⟩ := Nat.exists_eq_succ_of_ne_zero positive.ne'
  clear positive
  induction more with
  | zero =>
      intro total member
      obtain ⟨index, within, rfl⟩ := Array.mem_iff_getElem.mp member
      simp only [sumPowers, Nat.fold_succ, Nat.fold_zero, Array.getElem_zipWith,
        Array.getElem_replicate]
      exact start _ (each _ _ (Array.getElem_mem _))
  | succ more ih =>
      intro total member
      obtain ⟨index, within, rfl⟩ := Array.mem_iff_getElem.mp member
      have before : index < (sumPowers window samples (more + 1)).size := by simpa using within
      have next : index < (framePowers window (reference window) samples
          ((more + 1) * window.size)).size := by simpa using within
      have step : (sumPowers window samples (more + 2))[index] =
          (sumPowers window samples (more + 1))[index] +
            (framePowers window (reference window) samples ((more + 1) * window.size))[index] := by
        simp only [sumPowers, Nat.fold_succ, Array.getElem_zipWith]
      rw [step]
      exact sum _ _ (ih _ (Array.getElem_mem before)) (each _ _ (Array.getElem_mem next))

end Spectrum

end LoopbackCalibration
