import Mathlib.Data.Set.Function
import Mathlib.Tactic.FieldSimp
import Mathlib.Tactic.Ring
import LoopbackCalibration.Proofs.Scalar.Rational

/-! # The frequency axis of a spectrum

The coefficients of a transform of even size belong to signed frequencies. The place to which the
spectrum moves a coefficient is that of the bin with its frequency, and the bin in which the
frequency is looked up. A frequency between two bins is looked up in the one nearer to the middle,
one that is out of range in the first or the last bin, unless it is so far above that its position
is no word any more (`Spectrum.axes_agree`).
-/

namespace LoopbackCalibration

namespace Spectrum

open Arithmetic Rational

variable {half index : Nat} {frequency low high rate : ℚ}

/-- The frequency of a coefficient of a transform. Those in the second half are negative. -/
def signedFrequency (size : Nat) (rate : ℚ) (index : Nat) : ℚ :=
  if index < size / 2 then index * rate / size else (index - size) * rate / size

/-- The linear power of a coefficient of a transform. -/
def coefficientPower {α : Type} [Scalar α] (offset : α) (coefficient : Phasor α) : α :=
  Scalar.exp10 ((Tone.levelOfMagnitude coefficient.magnitude - offset) / ofCount 10)

/-- A spectrum is not too long for a word and the frequency, counted in bins from its start, not
too high for one. -/
def Countable (size : Nat) (frequency rate : ℚ) : Prop :=
  size < 2 ^ (63 : Nat) ∧ size / 2 + size * frequency / rate < 2 ^ (63 : Nat)

instance (size : Nat) (frequency rate : ℚ) : Decidable (Countable size frequency rate) :=
  inferInstanceAs (Decidable (_ ∧ _))

theorem reorder_of_lt (low : index < half) : reorder (2 * half) index = index + half := by
  rw [reorder, Nat.mul_div_cancel_left half two_pos]
  exact Nat.mod_eq_of_lt (by omega)

theorem reorder_of_le (high : half ≤ index) (inside : index < 2 * half) :
    reorder (2 * half) index = index - half := by
  have wrapped : index + half = index - half + 2 * half := by omega
  rw [reorder, Nat.mul_div_cancel_left half two_pos, wrapped, Nat.add_mod_right]
  exact Nat.mod_eq_of_lt (by omega)

theorem reorder_lt (inside : index < 2 * half) : reorder (2 * half) index < 2 * half :=
  Nat.mod_lt _ (by omega)

theorem reorder_reorder (inside : index < 2 * half) :
    reorder (2 * half) (reorder (2 * half) index) = index := by
  by_cases low : index < half
  · rw [reorder_of_lt low, reorder_of_le (by omega) (by omega)]
    omega
  · rw [reorder_of_le (by omega) inside, reorder_of_lt (by omega)]
    omega

theorem bijOn_reorder (half : Nat) :
    Set.BijOn (reorder (2 * half)) (Set.Iio (2 * half)) (Set.Iio (2 * half)) := by
  have maps : Set.MapsTo (reorder (2 * half)) (Set.Iio (2 * half)) (Set.Iio (2 * half)) :=
    fun index inside => reorder_lt inside
  have inverse : Set.InvOn (reorder (2 * half)) (reorder (2 * half)) (Set.Iio (2 * half))
      (Set.Iio (2 * half)) :=
    ⟨fun index inside => reorder_reorder inside, fun index inside => reorder_reorder inside⟩
  exact inverse.bijOn maps maps

/-- The coefficient stands where the order of the spectrum puts it. -/
theorem getElem?_framePowers_reorder {α : Type} [Scalar α] {window : Array α}
    (sized : window.size = 2 * half) (offset : α) (samples : Array (Phasor α)) (start : Nat)
    (inside : index < 2 * half) :
    (framePowers window offset samples start)[reorder (2 * half) index]? =
      some (coefficientPower offset
        ((Fourier.transform (2 * half) (frame window samples start)).getD index .zero)) := by
  have place : reorder (2 * half) index < window.size := by
    rw [sized]
    exact reorder_lt inside
  simp only [framePowers, Array.getElem?_ofFn, place, dite_true]
  rw [sized, reorder_reorder inside]
  rfl

/-- The place of a coefficient tells how many bins its frequency lies above the middle. -/
theorem signedFrequency_eq (inside : index < 2 * half) (rate : ℚ) :
    signedFrequency (2 * half) rate index =
      ((reorder (2 * half) index : ℤ) - half : ℤ) * rate / (2 * half : ℕ) := by
  rw [signedFrequency, Nat.mul_div_cancel_left half two_pos]
  by_cases low : index < half
  · rw [if_pos low, reorder_of_lt low]
    push_cast
    ring
  · rw [if_neg low, reorder_of_le (by omega) inside, Nat.cast_sub (by omega)]
    push_cast
    ring

theorem binFrequency_eq (positive : 0 < half) (rate : ℚ) (index : Nat) :
    binFrequency (2 * half) rate index = ((index : ℤ) - half : ℤ) * rate / (2 * half : ℕ) := by
  have nonzero : (half : ℚ) ≠ 0 := Nat.cast_ne_zero.mpr positive.ne'
  simp only [binFrequency, two_eq, ofCount_eq]
  push_cast
  field_simp
  ring

theorem getElem?_binFrequencies {size : Nat} (inside : index < size) (rate : ℚ) :
    (binFrequencies size rate)[index]? = some (binFrequency size rate index) := by
  simp [binFrequencies, inside]

section Bins

variable (positive : 0 < half) (rising : 0 < rate)
include positive rising

/-- A frequency is so many bins above the middle just if it is below that many bins' width. -/
theorem bins_lt_iff (bound : ℤ) : (2 * half : ℕ) * frequency / rate < bound ↔
    frequency < bound * rate / (2 * half : ℕ) := by
  have count : (0 : ℚ) < (2 * half : ℕ) := by
    norm_cast
    omega
  rw [div_lt_iff₀ rising, lt_div_iff₀ count, mul_comm frequency]

theorem bins_eq (count : ℤ) :
    (2 * half : ℕ) * (count * rate / (2 * half : ℕ)) / rate = (count : ℚ) := by
  have nonzero : ((2 * half : ℕ) : ℚ) ≠ 0 := Nat.cast_ne_zero.mpr (by omega)
  have moving := rising.ne'
  field_simp

theorem bins_lt_neg_half_iff :
    (2 * half : ℕ) * frequency / rate < (-half : ℤ) ↔ frequency < -rate / 2 := by
  have nonzero : (half : ℚ) ≠ 0 := Nat.cast_ne_zero.mpr positive.ne'
  rw [bins_lt_iff positive rising]
  push_cast
  field_simp

theorem bins_lt_half_iff :
    (2 * half : ℕ) * frequency / rate < (half : ℤ) ↔ frequency < rate / 2 := by
  have nonzero : (half : ℚ) ≠ 0 := Nat.cast_ne_zero.mpr positive.ne'
  rw [bins_lt_iff positive rising]
  push_cast
  field_simp

/-- The centre of the bin nearer to the middle is less than a bin away. -/
theorem abs_sub_centre_lt : |frequency -
    (whole ((2 * half : ℕ) * frequency / rate) : ℚ) * rate / (2 * half : ℕ)| <
      rate / (2 * half : ℕ) := by
  have count : (0 : ℚ) < (2 * half : ℕ) := by
    norm_cast
    omega
  have width : 0 < rate / (2 * half : ℕ) := div_pos rising count
  have distance : frequency -
      (whole ((2 * half : ℕ) * frequency / rate) : ℚ) * rate / (2 * half : ℕ) =
        ((2 * half : ℕ) * frequency / rate - whole ((2 * half : ℕ) * frequency / rate)) *
          (rate / (2 * half : ℕ)) := by
    have nonzero := count.ne'
    have moving := rising.ne'
    field_simp
  rw [distance, abs_mul, abs_of_pos width]
  exact mul_lt_of_lt_one_left width (abs_sub_whole_lt _)

end Bins

theorem binIndex?_eq_of_isSome {α : Type} [Arithmetic α] {size : Nat} {frequency rate : α}
    (found : (binIndex? size frequency rate).isSome) : binIndex? size frequency rate =
      some (min (binPosition size frequency rate).toNat (size - 1)) := by
  rw [binIndex?] at found ⊢
  split_ifs at found ⊢
  · cases found
  · rfl

theorem binPosition_eq (half : Nat) (frequency rate : ℚ) : binPosition (2 * half) frequency rate =
    half + truncate ((2 * half : ℕ) * frequency / rate) := by
  rw [binPosition, Nat.mul_div_cancel_left half two_pos, ofCount_eq]

theorem binIndex?_isSome_iff_countable (positive : 0 < half) :
    (binIndex? (2 * half) frequency rate).isSome ↔ Countable (2 * half) frequency rate := by
  rw [binIndex?_isSome_iff (by omega), Countable]
  refine and_congr_right fun small => ?_
  have above : 0 < (2 ^ (63 : Nat) - half : ℤ) := by omega
  have lowest : (-2 ^ 63 : ℤ) < 2 ^ (63 : Nat) - half := by omega
  have saturated : ¬(2 ^ 63 - 1 : ℤ) < 2 ^ (63 : Nat) - half := by omega
  have count : ((2 * half : ℕ) : ℚ) / 2 = half := by
    push_cast
    ring
  rw [InReach, binPosition_eq, truncate_eq, count, ← lt_sub_iff_add_lt', ← lt_sub_iff_add_lt',
    max_lt_iff, min_lt_iff, whole_lt_iff above, and_iff_right lowest, or_iff_right saturated]
  push_cast
  rfl

section Bins

variable (positive : 0 < half) (small : 2 * half < 2 ^ (63 : Nat))
include positive small

/-- A frequency of the axis is looked up in the bin next to it that lies nearer to the middle. -/
theorem exists_binIndex?_of_within (least : (-half : ℤ) ≤ (2 * half : ℕ) * frequency / rate)
    (most : (2 * half : ℕ) * frequency / rate < (half : ℤ)) :
    ∃ index, binIndex? (2 * half) frequency rate = some index ∧ index < 2 * half ∧
      (index - half : ℤ) = whole ((2 * half : ℕ) * frequency / rate) := by
  have lower : (-half : ℤ) ≤ whole ((2 * half : ℕ) * frequency / rate) := by
    have kept := whole_mono least
    rwa [whole_intCast] at kept
  have upper : whole ((2 * half : ℕ) * frequency / rate) < half :=
    (whole_lt_iff (by omega)).mpr most
  have position : binPosition (2 * half) frequency rate =
      half + whole ((2 * half : ℕ) * frequency / rate) := by
    rw [binPosition_eq, truncate_eq_whole ⟨by omega, by omega⟩]
  have found : (binIndex? (2 * half) frequency rate).isSome := by
    rw [binIndex?_isSome_iff (by omega), InReach, position]
    omega
  exact ⟨_, binIndex?_eq_of_isSome found, by omega, by omega⟩

theorem binIndex?_of_below (below : (2 * half : ℕ) * frequency / rate < (-half : ℤ)) :
    binIndex? (2 * half) frequency rate = some 0 := by
  have position : binPosition (2 * half) frequency rate ≤ 0 := by
    have lower := truncate_mono below.le
    rw [truncate_intCast ⟨by omega, by omega⟩] at lower
    rw [binPosition_eq]
    omega
  have found : (binIndex? (2 * half) frequency rate).isSome := by
    rw [binIndex?_isSome_iff (by omega), InReach]
    omega
  rw [binIndex?_eq_of_isSome found]
  congr 1
  omega

omit small in
theorem binIndex?_of_above (above : (half : ℤ) ≤ (2 * half : ℕ) * frequency / rate)
    (countable : Countable (2 * half) frequency rate) :
    binIndex? (2 * half) frequency rate = some (2 * half - 1) := by
  have small := countable.1
  have position : (2 * half : ℕ) ≤ binPosition (2 * half) frequency rate := by
    have upper := truncate_mono above
    rw [truncate_intCast ⟨by omega, by omega⟩] at upper
    rw [binPosition_eq]
    omega
  rw [binIndex?_eq_of_isSome ((binIndex?_isSome_iff_countable positive).mpr countable)]
  congr 1
  omega

end Bins

/-- By the order of the positions. -/
theorem exists_binIndex?_le (positive : 0 < half) (rising : 0 < rate) (below : low ≤ high)
    (found : binIndex? (2 * half) high rate = some index) :
    ∃ lower ≤ index, binIndex? (2 * half) low rate = some lower := by
  have position : binPosition (2 * half) low rate ≤ binPosition (2 * half) high rate := by
    have bins : (2 * half : ℕ) * low / rate ≤ (2 * half : ℕ) * high / rate := by gcongr
    have counts := truncate_mono bins
    rw [binPosition_eq, binPosition_eq]
    omega
  have reached := (binIndex?_isSome_iff (by omega)).mp (Option.isSome_of_eq_some found)
  have found' : (binIndex? (2 * half) low rate).isSome :=
    (binIndex?_isSome_iff (by omega)).mpr ⟨reached.1, position.trans_lt reached.2⟩
  refine ⟨_, ?_, binIndex?_eq_of_isSome found'⟩
  rw [binIndex?_eq_of_isSome (Option.isSome_of_eq_some found), Option.some.injEq] at found
  omega

/-- **The axes of a spectrum agree.** The spectrum exchanges the halves of a transform, and puts
each coefficient where the bin of its frequency is and where this frequency is looked up. Just the
countable frequencies have a bin: of higher frequencies no lower one, on the axis one whose centre
is less than a bin away, below it the first one, and above it the last one. -/
theorem axes_agree {size : Nat} {rate : ℚ} (positive : 0 < size) (even : size % 2 = 0)
    (rising : 0 < rate) :
    Set.BijOn (reorder size) (Set.Iio size) (Set.Iio size) ∧
    (∀ index < size, reorder size (reorder size index) = index ∧
      (∀ {α : Type} [Scalar α] (window : Array α) (offset : α) (samples : Array (Phasor α))
        (start : Nat), window.size = size →
          (framePowers window offset samples start)[reorder size index]? =
            some (coefficientPower offset
              ((Fourier.transform size (frame window samples start)).getD index .zero))) ∧
      (binFrequencies size rate)[reorder size index]? = some (signedFrequency size rate index) ∧
      (size < 2 ^ (63 : Nat) →
        binIndex? size (signedFrequency size rate index) rate = some (reorder size index))) ∧
    (∀ frequency, (binIndex? size frequency rate).isSome ↔ Countable size frequency rate) ∧
    (∀ low high index, low ≤ high → binIndex? size high rate = some index →
      ∃ lower ≤ index, binIndex? size low rate = some lower) ∧
    ∀ frequency, size < 2 ^ (63 : Nat) →
      (frequency < -rate / 2 → binIndex? size frequency rate = some 0) ∧
      (-rate / 2 ≤ frequency → frequency < rate / 2 →
        ∃ index centre, binIndex? size frequency rate = some index ∧
          (binFrequencies size rate)[index]? = some centre ∧ |frequency - centre| < rate / size) ∧
      (rate / 2 ≤ frequency → Countable size frequency rate →
        binIndex? size frequency rate = some (size - 1)) := by
  obtain ⟨half, rfl⟩ : ∃ half, size = 2 * half := ⟨size / 2, by omega⟩
  have positive : 0 < half := by omega
  refine ⟨bijOn_reorder half, fun index inside => ⟨reorder_reorder inside, ?_, ?_, ?_⟩,
    fun frequency => binIndex?_isSome_iff_countable positive,
    fun low high index below => exists_binIndex?_le positive rising below,
    fun frequency small => ⟨?_, ?_, ?_⟩⟩
  · intro α _ window offset samples start sized
    exact getElem?_framePowers_reorder sized offset samples start inside
  · rw [getElem?_binFrequencies (reorder_lt inside), binFrequency_eq positive,
      signedFrequency_eq inside]
  · intro small
    have placed := reorder_lt inside
    rw [signedFrequency_eq inside]
    have bins := bins_eq positive rising (reorder (2 * half) index - half)
    obtain ⟨place, found, -, count⟩ := exists_binIndex?_of_within positive small
      (by rw [bins]; exact_mod_cast (by omega : (-half : ℤ) ≤ reorder (2 * half) index - half))
      (by rw [bins]; exact_mod_cast (by omega : (reorder (2 * half) index - half : ℤ) < half))
    rw [bins, whole_intCast] at count
    rw [found, Option.some.injEq]
    omega
  · intro below
    exact binIndex?_of_below positive small ((bins_lt_neg_half_iff positive rising).mpr below)
  · intro least most
    have lower := not_lt.mp (mt (bins_lt_neg_half_iff positive rising).mp (not_lt.mpr least))
    have upper := (bins_lt_half_iff positive rising).mpr most
    obtain ⟨index, found, inside, count⟩ := exists_binIndex?_of_within positive small lower upper
    refine ⟨index, _, found, getElem?_binFrequencies inside rate, ?_⟩
    rw [binFrequency_eq positive, count]
    exact abs_sub_centre_lt positive rising
  · intro above countable
    apply binIndex?_of_above positive ?_ countable
    exact not_lt.mp (mt (bins_lt_half_iff positive rising).mp (not_lt.mpr above))

/-- The last coefficient of six has the frequency of the bin below the middle. -/
theorem axes_agree_six : 0 < 6 ∧ 6 % 2 = 0 ∧ (0 : ℚ) < 10 ∧
    reorder 6 5 = 2 ∧ signedFrequency 6 10 5 = -5 / 3 ∧
    (binFrequencies 6 (10 : ℚ))[reorder 6 5]? = some (-5 / 3) ∧
    binIndex? 6 (-5 / 3 : ℚ) 10 = some 2 ∧ Countable 6 700 10 ∧
    binIndex? 6 (700 : ℚ) 10 = some 5 := by
  have rising : (0 : ℚ) < 10 := by norm_num
  have frequency_eq : signedFrequency 6 10 5 = -5 / 3 := by decide +kernel
  have countable : Countable 6 700 10 := by decide +kernel
  obtain ⟨-, placed, -, -, located⟩ := axes_agree (show 0 < 6 by omega) rfl rising
  obtain ⟨-, -, centre, found⟩ := placed 5 (by omega)
  rw [frequency_eq] at centre found
  have above := (located 700 (by omega)).2.2 (by norm_num) countable
  exact ⟨by omega, rfl, rising, rfl, frequency_eq, centre, found (by omega), countable, above⟩

/-- At a rate of one, two bins have no place for a frequency of two to the power of sixty-two. -/
theorem saturation_overflows :
    ¬∀ frequency : ℚ, 1 / 2 ≤ frequency → binIndex? 2 frequency 1 = some (2 - 1) := by
  intro saturates
  have lost : binIndex? 2 (2 ^ (62 : Nat) : ℚ) 1 = none := by decide +kernel
  have found := saturates (2 ^ (62 : Nat)) (by norm_num)
  rw [lost] at found
  cases found

end Spectrum

end LoopbackCalibration
