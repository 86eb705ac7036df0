import LoopbackCalibration.Scalar

/-! # Windows

The symmetric raised-cosine window, zero at both ends, and the mean power of a
window.
-/

namespace LoopbackCalibration

namespace Window

variable {α : Type} [Scalar α]

/-- The weight that a Hann window gives a sample. -/
def hannWeight (size index : Nat) : α :=
  Arithmetic.half - Arithmetic.half *
    Scalar.cos (Arithmetic.two * Scalar.pi * Arithmetic.ofCount index /
      Arithmetic.ofCount (size - 1))

/-- The raised-cosine window of a size. A window of one weight passes its sample. -/
def hann (size : Nat) : Array α :=
  if size = 1 then #[1] else Array.ofFn fun index : Fin size => hannWeight size index

/-- Mean of the squared weights; zero for the empty window. -/
def power (window : Array α) : α :=
  if window.isEmpty then
    0
  else
    window.foldl (fun total weight => total + weight * weight) 0 / Arithmetic.ofCount window.size

@[simp] theorem size_hann (size : Nat) : (hann size : Array α).size = size := by
  unfold hann
  split
  · next single => simp [single]
  · simp

end Window

end LoopbackCalibration
