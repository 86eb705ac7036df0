import LoopbackCalibration.Phasor

/-! # The discrete Fourier transform

Coefficient `k` of `n` samples is the sum of sample `j` turned by `-2π k j / n`.
`direct` evaluates these sums one by one. `transform` halves an even size into
the transforms of the samples at even and at odd positions, and is direct on
what is left once the size is odd. No turn at all and a quarter turn are carried out
without a product, so an infinite part of a sample spoils no other part there.
-/

namespace LoopbackCalibration

namespace Fourier

variable {α : Type} [Scalar α]

/-- The unit phasor `turns / size` of a full turn behind the real axis. -/
def rotation (size turns : Nat) : Phasor α :=
  .ofPolar 1 (-Arithmetic.two * Scalar.pi * Arithmetic.ofCount turns / Arithmetic.ofCount size)

/-- The rotations by every multiple of one part in `size` of a full turn. -/
def rotations (size : Nat) : Array (Phasor α) :=
  Array.ofFn fun index : Fin size => rotation size index

/-- A sample turned back by `turns / size` of a full turn. -/
@[inline] def turnBack (size turns : Nat) (sample : Phasor α) : Phasor α :=
  if turns = 0 then
    sample
  else if 4 * turns = size then
    ⟨sample.im, -sample.re⟩
  else
    sample * rotation size turns

/-- The samples up to a position, turned for one coefficient and summed. -/
def partialCoefficient (turns : Array (Phasor α)) (samples : Array (Phasor α)) (index : Nat) :
    Nat → Phasor α
  | 0 => .zero
  | position + 1 =>
    let sample := samples.getD position .zero
    let turn := index * position % turns.size
    partialCoefficient turns samples index position +
      if turn = 0 then sample else sample * turns.getD turn .zero

/-- Every coefficient as a sum over all samples. -/
def direct (size : Nat) (samples : Array (Phasor α)) : Array (Phasor α) :=
  let turns := rotations size
  Array.ofFn fun index : Fin size => partialCoefficient turns samples index size

/-- Every second sample from a start on. -/
def everySecond (size start : Nat) (samples : Array (Phasor α)) : Array (Phasor α) :=
  Array.ofFn fun index : Fin size => samples.getD (2 * index + start) .zero

/-- Join the transforms of the samples at even and at odd positions. -/
def join (half : Nat) (evens odds : Array (Phasor α)) : Array (Phasor α) :=
  let turned : Array (Phasor α) :=
    Array.ofFn fun index : Fin half => turnBack (2 * half) index (odds.getD index .zero)
  Array.ofFn fun index : Fin (2 * half) =>
    if index.val < half then
      evens.getD index .zero + turned.getD index .zero
    else
      evens.getD (index - half) .zero - turned.getD (index - half) .zero

/-- The coefficients of the first `size` samples. -/
def transform (size : Nat) (samples : Array (Phasor α)) : Array (Phasor α) :=
  if 1 < size ∧ size % 2 = 0 then
    let half := size / 2
    join half (transform half (everySecond half 0 samples))
      (transform half (everySecond half 1 samples))
  else
    direct size samples
termination_by size

@[simp] theorem size_transform (size : Nat) (samples : Array (Phasor α)) :
    (transform size samples).size = size := by
  unfold transform
  split
  · simp only [join, Array.size_ofFn]
    omega
  · simp [direct]

end Fourier

end LoopbackCalibration
