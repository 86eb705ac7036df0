import LoopbackCalibration.Proofs.Spectrum.Levels
import LoopbackCalibration.Proofs.Spectrum.Window

/-! # The frames of a spectrum

A spectrum is made of the whole frames of its capture, and each frame gives to it what it would give
alone. With exact arithmetic the linear power of a bin is the mean of what it is in the spectra of
the frames, so neither their order counts nor how often all of them occur
(`Spectrum.levels_average`).
-/

namespace LoopbackCalibration

namespace Spectrum

section Frames

variable {α : Type} {first second samples : Array (Phasor α)} {size : Nat}

/-- A frame of a capture on its own. -/
def frameAt (samples : Array (Phasor α)) (size number : Nat) : Array (Phasor α) :=
  samples.extract (number * size) ((number + 1) * size)

/-- The whole frames of a capture, first to last. -/
def wholeFrames (samples : Array (Phasor α)) (size : Nat) : List (Array (Phasor α)) :=
  (List.range (samples.size / size)).map (frameAt samples size)

@[simp] theorem length_wholeFrames (samples : Array (Phasor α)) (size : Nat) :
    (wholeFrames samples size).length = samples.size / size := by
  simp [wholeFrames]

theorem mul_le_size {number : Nat} (positive : 0 < size) (inside : number < samples.size / size) :
    (number + 1) * size ≤ samples.size :=
  (Nat.le_div_iff_mul_le positive).mp inside

/-- Where there is a frame there is one in every capture of as many. -/
theorem le_size_of_div_eq (positive : 0 < size) (enough : size ≤ second.size)
    (count : first.size / size = second.size / size) : size ≤ first.size := by
  have whole := Nat.div_pos enough positive
  rw [← count] at whole
  exact (Nat.div_pos_iff.mp whole).2

theorem size_of_mem_wholeFrames (positive : 0 < size) :
    ∀ alone ∈ wholeFrames samples size, alone.size = size := by
  intro alone member
  obtain ⟨number, inside, rfl⟩ := List.mem_map.mp member
  have enough := mul_le_size positive (List.mem_range.mp inside)
  rw [frameAt, Array.size_extract, Nat.min_eq_left enough, Nat.succ_mul]
  omega

/-- A capture of one frame has itself as the only one. -/
theorem wholeFrames_of_size_eq (positive : 0 < size) (filled : samples.size = size) :
    wholeFrames samples size = [samples] := by
  rw [wholeFrames, filled, Nat.div_self positive]
  simp [frameAt, ← filled]

/-- What follows the whole frames does not count. -/
theorem wholeFrames_congr (count : first.size / size = second.size / size)
    (same : first.take (second.size / size * size) = second.take (second.size / size * size)) :
    wholeFrames first size = wholeFrames second size := by
  rw [wholeFrames, wholeFrames, count]
  apply List.map_congr_left
  intro number inside
  have within : (number + 1) * size ≤ second.size / size * size :=
    Nat.mul_le_mul_right size (List.mem_range.mp inside)
  have cut (samples : Array (Phasor α)) : frameAt samples size number =
      frameAt (samples.take (second.size / size * size)) size number := by
    simp [frameAt, Array.take_eq_extract, Array.extract_extract, Nat.min_eq_left within]
  rw [cut first, same, ← cut]

theorem wholeFrames_append (positive : 0 < size) (whole : size ∣ first.size)
    (second : Array (Phasor α)) : wholeFrames (first ++ second) size =
      wholeFrames first size ++ wholeFrames second size := by
  obtain ⟨count, filled⟩ := whole
  have split : (first ++ second).size / size = count + second.size / size := by
    rw [Array.size_append, filled, Nat.mul_add_div positive]
  have filled' : first.size / size = count := by
    rw [filled, Nat.mul_div_cancel_left count positive]
  rw [wholeFrames, wholeFrames, wholeFrames, split, filled', List.range_add, List.map_append,
    List.map_map]
  congr 1
  · apply List.map_congr_left
    intro number inside
    have within : (number + 1) * size ≤ first.size := by
      rw [filled, Nat.mul_comm]
      exact Nat.mul_le_mul_left size (List.mem_range.mp inside)
    simp [frameAt, Array.extract_append, Nat.sub_eq_zero_of_le within]
  · apply List.map_congr_left
    intro number inside
    have start : (count + number) * size = first.size + number * size := by
      rw [filled, Nat.add_mul, Nat.mul_comm count]
    have stop : (count + number + 1) * size = first.size + (number + 1) * size := by
      rw [filled, Nat.add_assoc, Nat.add_mul, Nat.mul_comm count]
    simp [frameAt, Array.extract_append, start, stop]

theorem wholeFrames_repeated (positive : 0 < size) (whole : size ∣ samples.size) (times : Nat) :
    wholeFrames (Array.replicate times samples).flatten size =
      (List.replicate times (wholeFrames samples size)).flatten := by
  induction times with
  | zero => simp [wholeFrames]
  | succ times ih =>
      have unrolled : (Array.replicate (times + 1) samples).flatten =
          samples ++ (Array.replicate times samples).flatten := by
        simp [Array.replicate_succ']
      rw [unrolled, wholeFrames_append positive whole, ih, List.replicate_succ, List.flatten_cons]

end Frames

section Average

variable {α : Type} [Scalar α] {samples : Array (Phasor α)} {size number frames : Nat}

/-- A frame gives the same powers on its own. -/
theorem framePowers_frameAt {window : Array α} (offset : α)
    (enough : (number + 1) * window.size ≤ samples.size) :
    framePowers window offset (frameAt samples window.size number) 0 =
      framePowers window offset samples (number * window.size) := by
  have cut : frame window (frameAt samples window.size number) 0 =
      frame window samples (number * window.size) := by
    refine congrArg Array.ofFn (funext fun index => ?_)
    have inside := index.isLt
    have within : number * window.size + index < (number + 1) * window.size := by
      rw [Nat.succ_mul]
      omega
    have place : (frameAt samples window.size number).getD (0 + index) .zero =
        samples.getD (number * window.size + index) .zero := by
      have kept : index < (number + 1) * window.size - number * window.size := by omega
      rw [Array.getD_eq_getD_getElem?, Array.getD_eq_getD_getElem?, Nat.zero_add, frameAt,
        Array.getElem?_extract, Nat.min_eq_left enough, if_pos kept]
    rw [place]
  rw [framePowers, cut]
  rfl

/-- The powers of each bin of a frame. -/
def ownPowers (size : Nat) (alone : Array (Phasor α)) : Array α :=
  framePowers (Window.hann size) (reference (Window.hann size)) alone 0

@[simp] theorem size_ownPowers (alone : Array (Phasor α)) : (ownPowers size alone).size = size := by
  simp [ownPowers]

/-- The powers of each bin, summed over frames. -/
def summed (frames : List (Array (Phasor α))) (size : Nat) : Array α :=
  frames.foldl (fun sums alone => Array.zipWith (· + ·) sums (ownPowers size alone))
    (Array.replicate size 0)

theorem summed_concat (frames : List (Array (Phasor α))) (alone : Array (Phasor α)) (size : Nat) :
    summed (frames ++ [alone]) size =
      Array.zipWith (· + ·) (summed frames size) (ownPowers size alone) := by
  rw [summed, List.foldl_concat, summed]

@[simp] theorem size_summed (frames : List (Array (Phasor α))) :
    (summed frames size).size = size := by
  induction frames using List.reverseRecOn with
  | nil => simp [summed]
  | append_singleton frames alone ih => simp [summed_concat, ih]

/-- The level of each bin, averaged over frames. -/
def averaged (frames : List (Array (Phasor α))) (size : Nat) : Array α :=
  (summed frames size).map fun power =>
    Arithmetic.ofCount 10 * Scalar.log10 (power / Arithmetic.ofCount frames.length)

@[simp] theorem size_averaged (frames : List (Array (Phasor α))) :
    (averaged frames size).size = size := by
  simp [averaged]

/-- By induction on the frames: the last one is taken where it stands. -/
theorem sumPowers_eq_summed (positive : 0 < size) {count : Nat}
    (enough : count ≤ samples.size / size) :
    sumPowers (Window.hann size) samples count =
      summed ((List.range count).map (frameAt samples size)) size := by
  induction count with
  | zero => simp [sumPowers, summed]
  | succ count ih =>
      have last : framePowers (Window.hann size) (reference (Window.hann size)) samples
          (count * (Window.hann size : Array α).size) =
            ownPowers size (frameAt samples size count) := by
        have inside := mul_le_size positive (Nat.lt_of_succ_le enough)
        rw [ownPowers, ← framePowers_frameAt _ (by rwa [Window.size_hann]), Window.size_hann]
      rw [List.range_succ, List.map_append, List.map_singleton, summed_concat,
        ← ih (Nat.le_of_succ_le enough), ← last]
      simp only [sumPowers, Nat.fold_succ]

theorem levels_eq_averaged (positive : 0 < size) (even : size % 2 = 0)
    (enough : size ≤ samples.size) :
    levels samples size = .ok (averaged (wholeFrames samples size) size) := by
  rw [levels_of_enough positive even enough, sumPowers_eq_summed positive le_rfl, averaged,
    length_wholeFrames]
  rfl

/-- A frame on its own is averaged with nothing. -/
theorem levels_eq_averaged_singleton (positive : 0 < size) (even : size % 2 = 0)
    (filled : samples.size = size) : levels samples size = .ok (averaged [samples] size) := by
  rw [levels_eq_averaged positive even filled.ge, wholeFrames_of_size_eq positive filled]

theorem levels_eq_error_iff {fault : Fault} : levels samples size = .error fault ↔
    if size = 0 ∨ size % 2 = 1 then fault = .invalidSize size
    else samples.size < size ∧ fault = .insufficientSamples size samples.size := by
  have odd : size % 2 ≠ 0 ↔ size % 2 = 1 := Nat.mod_two_ne_zero
  simp only [levels, odd, Nat.div_eq_zero_iff]
  by_cases invalid : size = 0 ∨ size % 2 = 1
  · rw [if_pos invalid, if_pos invalid, Except.error.injEq, eq_comm]
  · have positive : size ≠ 0 := fun zero => invalid (.inl zero)
    rw [if_neg invalid, if_neg invalid]
    by_cases short : samples.size < size
    · simp [short, eq_comm]
    · simp [positive, short]

end Average

section Exact

variable {samples : Array (Phasor ℝ)} {frames other : List (Array (Phasor ℝ))} {size index : Nat}

/-- The power of a bin of a frame. -/
noncomputable def binPower (size index : Nat) (alone : Array (Phasor ℝ)) : ℝ :=
  (ownPowers size alone).getD index 0

theorem binPower_pos (inside : index < size) (alone : Array (Phasor ℝ)) :
    0 < binPower size index alone := by
  have place : index < (Window.hann size : Array ℝ).size := by rwa [Window.size_hann]
  rw [binPower, ownPowers, framePowers, Array.getD_eq_getD_getElem?, Array.getElem?_ofFn,
    dif_pos place]
  exact Real.rpow_pos_of_pos (by norm_num) _

/-- The sum runs over the frames. -/
theorem getD_summed (inside : index < size) (frames : List (Array (Phasor ℝ))) :
    (summed frames size).getD index 0 = (frames.map (binPower size index)).sum := by
  induction frames using List.reverseRecOn with
  | nil => simp [summed, Array.getD_eq_getD_getElem?, inside]
  | append_singleton frames alone ih =>
      rw [List.map_append, List.map_singleton, List.sum_append, List.sum_singleton, ← ih,
        summed_concat, binPower]
      simp [Array.getD_eq_getD_getElem?, inside]

/-- The level of a bin is that of its mean power. -/
theorem getD_averaged (inside : index < size) (frames : List (Array (Phasor ℝ))) :
    (averaged frames size).getD index 0 =
      10 * Real.logb 10 ((frames.map (binPower size index)).sum / frames.length) := by
  rw [← getD_summed inside, averaged]
  simp [Array.getD_eq_getD_getElem?, inside, Arithmetic.ofCount, Scalar.log10]

/-- The linear power of a level is the power it was taken of. -/
theorem rpow_level {power : ℝ} (positive : 0 < power) :
    (10 : ℝ) ^ (10 * Real.logb 10 power / 10) = power := by
  rw [mul_div_cancel_left₀ _ (by norm_num)]
  exact Real.rpow_logb (by norm_num) (by norm_num) positive

theorem rpow_averaged (inside : index < size) (taken : frames ≠ []) :
    (10 : ℝ) ^ ((averaged frames size).getD index 0 / 10) =
      (frames.map (binPower size index)).sum / frames.length := by
  rw [getD_averaged inside]
  apply rpow_level
  have count : (0 : ℝ) < frames.length := by exact_mod_cast List.length_pos_of_ne_nil taken
  have total : 0 < (frames.map (binPower size index)).sum := by
    apply List.sum_pos
    · intro power member
      obtain ⟨alone, -, rfl⟩ := List.mem_map.mp member
      exact binPower_pos inside alone
    · simpa using taken
  exact div_pos total count

/-- Of one frame the mean is its own power. -/
theorem rpow_averaged_singleton (inside : index < size) (alone : Array (Phasor ℝ)) :
    (10 : ℝ) ^ ((averaged [alone] size).getD index 0 / 10) = binPower size index alone := by
  rw [rpow_averaged inside (List.cons_ne_nil _ _)]
  simp

/-- Only the mean of the powers counts. -/
theorem averaged_congr (same : ∀ index < size,
    (frames.map (binPower size index)).sum / frames.length =
      (other.map (binPower size index)).sum / (other.length : ℝ)) :
    averaged frames size = averaged other size := by
  apply Array.ext
  · simp
  · intro index left right
    have inside : index < size := by simpa using left
    have level := getD_averaged inside frames
    rw [same index inside, ← getD_averaged inside other] at level
    simpa [Array.getD_eq_getD_getElem?, inside] using level

theorem averaged_perm (order : frames.Perm other) : averaged frames size = averaged other size := by
  apply averaged_congr
  intro index inside
  rw [(order.map _).sum_eq, order.length_eq]

theorem averaged_repeated {times : Nat} (again : 0 < times) :
    averaged (List.replicate times frames).flatten size = averaged frames size := by
  apply averaged_congr
  intro index inside
  have count : (times : ℝ) ≠ 0 := by exact_mod_cast again.ne'
  simp [List.map_flatten, List.sum_flatten, List.length_flatten, mul_div_mul_left _ _ count]

/-- The mean over the frames of what each of them gives alone. -/
theorem exists_levels_mean (positive : 0 < size) (even : size % 2 = 0)
    (enough : size ≤ samples.size) : ∃ bins, ∃ singles : List (Array ℝ),
      levels samples size = .ok bins ∧
      (wholeFrames samples size).map (levels · size) = singles.map .ok ∧
        ∀ index < size, (10 : ℝ) ^ (bins.getD index 0 / 10) =
          (singles.map fun single => (10 : ℝ) ^ (single.getD index 0 / 10)).sum /
            (samples.size / size : Nat) := by
  have frames : wholeFrames samples size ≠ [] := by
    rw [← List.length_pos_iff_ne_nil, length_wholeFrames]
    exact Nat.div_pos enough positive
  refine ⟨_, (wholeFrames samples size).map fun alone => averaged [alone] size,
    levels_eq_averaged positive even enough, ?_, ?_⟩
  · rw [List.map_map]
    apply List.map_congr_left
    intro alone member
    exact levels_eq_averaged_singleton positive even (size_of_mem_wholeFrames positive alone member)
  · intro index inside
    rw [rpow_averaged inside frames, length_wholeFrames, List.map_map]
    congr 2
    apply List.map_congr_left
    intro alone _
    exact (rpow_averaged_singleton inside alone).symm

theorem levels_perm (positive : 0 < size) (even : size % 2 = 0) (enough : size ≤ samples.size)
    {second : Array (Phasor ℝ)}
    (order : (wholeFrames second size).Perm (wholeFrames samples size)) :
    levels second size = levels samples size := by
  have count : second.size / size = samples.size / size := by simpa using order.length_eq
  have enough' : size ≤ second.size := le_size_of_div_eq positive enough count
  rw [levels_eq_averaged positive even enough, levels_eq_averaged positive even enough',
    averaged_perm order]

theorem levels_repeated (positive : 0 < size) (even : size % 2 = 0) (whole : size ∣ samples.size)
    {times : Nat} (again : 0 < times) :
    levels (Array.replicate times samples).flatten size = levels samples size := by
  by_cases empty : samples.size = 0
  · rw [Array.size_eq_zero_iff.mp empty]
    simp
  · have enough := Nat.le_of_dvd (Nat.pos_of_ne_zero empty) whole
    have enough' : size ≤ (Array.replicate times samples).flatten.size := by
      have one := Nat.le_mul_of_pos_left samples.size again
      simpa using enough.trans one
    rw [levels_eq_averaged positive even enough, levels_eq_averaged positive even enough',
      wholeFrames_repeated positive whole, averaged_repeated again]

end Exact

/-- **A spectrum is the mean of the spectra of its frames.** It is refused just if the size is zero
or odd or the capture does not fill a frame, and otherwise depends on the whole frames only. With
exact arithmetic, and from four samples on, where the window has power and every logarithm is that
of a positive number, the linear power of a bin is the mean of what it is for each frame alone.
Hence neither the order of the frames counts nor how often all of them occur. -/
theorem levels_average (size : Nat) :
    (∀ {α : Type} [Scalar α] (samples : Array (Phasor α)),
      (∀ fault, levels samples size = .error fault ↔
        if size = 0 ∨ size % 2 = 1 then fault = .invalidSize size
        else samples.size < size ∧ fault = .insufficientSamples size samples.size) ∧
      (¬(size = 0 ∨ size % 2 = 1) → size ≤ samples.size →
        ∃ bins, levels samples size = .ok bins ∧ bins.size = size ∧
          ∀ other : Array (Phasor α), other.size / size = samples.size / size →
            other.take (samples.size / size * size) = samples.take (samples.size / size * size) →
              levels other size = .ok bins)) ∧
    (4 ≤ size → size % 2 = 0 → 0 < Window.power (Window.hann size : Array ℝ) ∧
      ∀ samples : Array (Phasor ℝ),
      (size ≤ samples.size → ∃ bins, ∃ singles : List (Array ℝ), levels samples size = .ok bins ∧
        (wholeFrames samples size).map (levels · size) = singles.map .ok ∧
          ∀ index < size, (10 : ℝ) ^ (bins.getD index 0 / 10) =
            (singles.map fun single => (10 : ℝ) ^ (single.getD index 0 / 10)).sum /
              (samples.size / size : Nat)) ∧
      (size ≤ samples.size → ∀ other : Array (Phasor ℝ),
        (wholeFrames other size).Perm (wholeFrames samples size) →
          levels other size = levels samples size) ∧
      (size ∣ samples.size → ∀ times, 0 < times →
        levels (Array.replicate times samples).flatten size = levels samples size)) := by
  constructor
  · intro α _ samples
    refine ⟨fun fault => levels_eq_error_iff, ?_⟩
    intro valid enough
    have positive : 0 < size := by omega
    have even : size % 2 = 0 := by omega
    refine ⟨_, levels_eq_averaged positive even enough, size_averaged _, ?_⟩
    intro other count same
    have enough' : size ≤ other.size :=
      le_size_of_div_eq positive enough count
    rw [levels_eq_averaged positive even enough', wholeFrames_congr count same]
  · intro four even
    have positive : 0 < size := by omega
    refine ⟨(Window.power_hann_pos_iff size).mpr (by omega), fun samples =>
      ⟨exists_levels_mean positive even, ?_, ?_⟩⟩
    · intro enough other order
      exact levels_perm positive even enough order
    · intro whole times again
      exact levels_repeated positive even whole again

/-- A frame of a constant and one of silence in either order, the constant three times, and the
constant with one more sample. -/
theorem levels_average_four :
    levels (Array.replicate 4 (⟨1, 0⟩ : Phasor ℝ) ++ Array.replicate 4 .zero) 4 =
        levels (Array.replicate 4 .zero ++ Array.replicate 4 (⟨1, 0⟩ : Phasor ℝ)) 4 ∧
      levels (Array.replicate 3 (Array.replicate 4 (⟨1, 0⟩ : Phasor ℝ))).flatten 4 =
        levels (Array.replicate 4 (⟨1, 0⟩ : Phasor ℝ)) 4 ∧
      ∃ bins, levels (Array.replicate 4 (⟨1, 0⟩ : Phasor ℝ)) 4 = .ok bins ∧
        levels (Array.replicate 5 (⟨1, 0⟩ : Phasor ℝ)) 4 = .ok bins := by
  refine ⟨?_, ?_, ?_⟩
  · apply (((levels_average 4).2 le_rfl rfl).2 _).2.1 (by simp)
    have two (first second : Phasor ℝ) :
        wholeFrames (Array.replicate 4 first ++ Array.replicate 4 second) 4 =
          [Array.replicate 4 first, Array.replicate 4 second] := by
      rw [wholeFrames_append (by decide) (by simp), wholeFrames_of_size_eq (by decide) (by simp),
        wholeFrames_of_size_eq (by decide) (by simp)]
      rfl
    rw [two, two]
    exact List.Perm.swap _ _ _
  · exact (((levels_average 4).2 le_rfl rfl).2 _).2.2 (by simp) 3 (by decide)
  · obtain ⟨bins, found, -, alike⟩ := ((levels_average 4).1
      (Array.replicate 4 (⟨1, 0⟩ : Phasor ℝ))).2 (by decide) (by simp)
    exact ⟨bins, found, alike (Array.replicate 5 ⟨1, 0⟩) (by simp) (by simp)⟩

end Spectrum

end LoopbackCalibration
