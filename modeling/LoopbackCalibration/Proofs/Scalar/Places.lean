import Mathlib
import LoopbackCalibration.Proofs.Scalar.Steps
import LoopbackCalibration.Proofs.Scalar.Sums
import LoopbackCalibration.Proofs.Scalar.Zeros

/-! # Places of doubles

A double lies among the reals and the infinities where its steps do, and doubles compare as their
places do. The bits of a double keep a finite number that fills its digits, unless its exponent is
too high: then they hold an infinity. So the sum of two doubles lies where the exact sum of their
places is rounded to, and sums of doubles go with the order (`Binary64.placed`).
-/

namespace LoopbackCalibration

namespace Binary64

open Float.Model UnpackedFloat

section Packing

variable {significand : ℕ} {exponent : ℤ}

theorem unpackSign_packComponents {spec : Format} (sign : Sign)
    (exponent : BitVec spec.exponentBits) (trailing : BitVec spec.mantissaBitsWithoutImplicit) :
    unpackSign (packComponents spec sign exponent trailing) = sign.toBitVec := by
  ext bit within
  obtain rfl : bit = 0 := by omega
  simp [unpackSign, packComponents, BitVec.getLsbD_append, BitVec.getLsbD_eq_getElem,
    BitVec.getElem_append]

theorem ofBitVec_toBitVec (sign : Sign) : Sign.ofBitVec sign.toBitVec = sign := by
  cases sign <;> rfl

/-- A stored exponent of zero stands for the least one, without a leading digit. -/
theorem unpack_packComponents_zero {trailing : BitVec 52} (sign : Sign)
    (positive : 0 < trailing.toNat) :
    UnpackedFloat.unpack .binary64 (packComponents .binary64 sign 0#11 trailing) =
      .finite sign trailing.toNat (-1074) positive := by
  have nonzero : trailing ≠ 0#52 := fun zero => by simp [zero] at positive
  unfold UnpackedFloat.unpack
  simp only [unpackExponent_packComponents, unpackMantissa_packComponents,
    unpackSign_packComponents, ofBitVec_toBitVec]
  rw [if_neg (by decide), if_pos trivial, dif_neg nonzero]
  rfl

theorem toNat_leading (trailing : BitVec 52) :
    (1#1 ++ trailing).toNat = 2 ^ 52 + trailing.toNat := by
  rw [BitVec.toNat_append, ← Nat.shiftLeft_add_eq_or_of_lt trailing.isLt]
  rfl

theorem unpack_packComponents_of_exponent {exponent : BitVec 11} (trailing : BitVec 52)
    (sign : Sign) (positive : 0 < exponent.toNat) (finite : exponent.toNat < 2047) :
    UnpackedFloat.unpack .binary64 (packComponents .binary64 sign exponent trailing) =
      .finite sign (2 ^ 52 + trailing.toNat) (exponent.toNat - 1075) (by positivity) := by
  have nonzero : exponent ≠ 0#11 := by
    rintro rfl
    exact absurd positive (by decide)
  have regular : exponent ≠ -1#11 := by
    rintro rfl
    exact absurd finite (by decide)
  unfold UnpackedFloat.unpack
  simp only [unpackExponent_packComponents, unpackMantissa_packComponents,
    unpackSign_packComponents, ofBitVec_toBitVec]
  rw [if_neg regular, if_neg nonzero]
  simp only [toNat_leading]
  rfl

theorem pack_finite (exponent : ℤ) (positive : 0 < significand) (sign : Sign) :
    UnpackedFloat.pack .binary64 (.finite sign significand exponent positive) =
      if 2 ^ 11 ≤ (exponent + 1075).toNat + 1 then packedInfinity .binary64 sign
      else if significand.log2 + 1 = 53 then
        packComponents .binary64 sign (.ofNat 11 (exponent + 1075).toNat) (.ofNat 52 significand)
      else packComponents .binary64 sign 0#11 (.ofNat 52 significand) := by
  have biased : exponent + (Format.binary64.exponentBias : ℕ) +
      (Format.binary64.mantissaBitsWithoutImplicit : ℕ) = exponent + 1075 := by
    change exponent + 1023 + 52 = _
    omega
  unfold UnpackedFloat.pack
  dsimp only
  rw [biased]
  rfl

/-- Packing limits the exponent, and otherwise keeps a canonical number. -/
theorem unpack_packed_finite (positive : 0 < significand) (fills : Fills significand exponent)
    (sign : Sign) : (packed (.finite sign significand exponent positive)).toModel.unpack =
      if 972 ≤ exponent then .infinity sign else .finite sign significand exponent positive := by
  have packs : (packed (.finite sign significand exponent positive)).toModel.unpack =
    UnpackedFloat.unpack .binary64
      (UnpackedFloat.pack .binary64 (.finite sign significand exponent positive)) := rfl
  obtain ⟨least, within, full⟩ := fills
  rw [packs, pack_finite]
  by_cases above : 972 ≤ exponent
  · rw [if_pos above, if_pos (by omega)]
    cases sign <;> rfl
  · rw [if_neg above, if_neg (by omega)]
    by_cases normal : 2 ^ 52 ≤ significand
    · have log_eq : significand.log2 = 52 :=
        (Nat.log2_eq_iff positive.ne').mpr ⟨normal, within⟩
      have exponent_eq : (BitVec.ofNat 11 (exponent + 1075).toNat).toNat = exponent + 1075 := by
        rw [BitVec.toNat_ofNat]
        omega
      have trailing : 2 ^ 52 + (BitVec.ofNat 52 significand).toNat = significand := by
        rw [BitVec.toNat_ofNat]
        omega
      rw [if_pos (by rw [log_eq]), unpack_packComponents_of_exponent _ _ (by omega) (by omega)]
      congr 1
      omega
    · have log_lt : significand.log2 < 52 := (Nat.log2_lt positive.ne').mpr (by omega)
      have trailing : (BitVec.ofNat 52 significand).toNat = significand := by
        rw [BitVec.toNat_ofNat]
        omega
      rw [if_neg (by omega), unpack_packComponents_zero _ (by omega)]
      congr 1
      omega

/-- A finite double fills its digits, and its exponent is limited. -/
theorem fills_of_unpack {value : Float} {sign : Sign} {positive : 0 < significand}
    (unpacked : value.toModel.unpack = .finite sign significand exponent positive) :
    Fills significand exponent ∧ exponent < 972 := by
  unfold Float.Model.unpack UnpackedFloat.unpack at unpacked
  dsimp only at unpacked
  generalize value.toModel.toBits.toBitVec = bits at unpacked
  have trailing_lt : (@unpackMantissa .binary64 bits).toNat < 2 ^ 52 := BitVec.isLt _
  have stored_lt : (@unpackExponent .binary64 bits).toNat < 2 ^ 11 := BitVec.isLt _
  split_ifs at unpacked with infinite void least zero
  · injection unpacked with _ significand_eq exponent_eq
    rw [least] at exponent_eq
    change (0 : ℤ) - 1075 + 1 = exponent at exponent_eq
    exact ⟨⟨by omega, by omega, .inr (by omega)⟩, by omega⟩
  · have regular : (@unpackExponent .binary64 bits).toNat ≠ 2047 :=
      fun same => infinite (BitVec.eq_of_toNat_eq same)
    have nonzero : (@unpackExponent .binary64 bits).toNat ≠ 0 :=
      fun same => least (BitVec.eq_of_toNat_eq same)
    injection unpacked with _ significand_eq exponent_eq
    rw [toNat_leading] at significand_eq
    change ((@unpackExponent .binary64 bits).toNat : ℤ) - 1075 = exponent at exponent_eq
    exact ⟨⟨by omega, by omega, .inl (by omega)⟩, by omega⟩

theorem canonical_unpack (value : Float) : Canonical value.toModel.unpack := by
  cases unpacked : value.toModel.unpack with
  | infinity | notANumber | zero => trivial
  | finite => exact (fills_of_unpack unpacked).1

end Packing

section Places

/-- Where a number lies, in steps from zero. -/
noncomputable def place : UnpackedFloat → EReal
  | .infinity .positive => ⊤
  | .infinity .negative => ⊥
  | number => ((count number : ℝ) : EReal)

/-- Canonical numbers compare as their places do. -/
theorem place_lt_place_iff {first second : UnpackedFloat} (canonical : Canonical first)
    (canonical' : Canonical second) : place first < place second ↔ key first < key second := by
  rcases first with (_ | _) | _ | _ | ⟨(_ | _), significand, exponent, positive⟩ <;>
    rcases second with (_ | _) | _ | _ | ⟨(_ | _), significand', exponent', positive'⟩ <;>
    simp only [place, key, count, Sign.apply, Prod.Lex.toLex_lt_toLex, EReal.coe_lt_coe_iff,
      Int.cast_lt, EReal.bot_lt_coe, EReal.coe_lt_top, lt_irrefl, not_top_lt, not_lt_bot] <;>
    simp [steps_pos, *]
  · rw [Fills.steps_lt_iff canonical' canonical, eq_comm (a := exponent)]
  · have := steps_pos positive exponent
    omega
  · exact Fills.steps_lt_iff canonical canonical'

/-- Where a double lies, in steps from zero. -/
noncomputable def height (value : Float) : EReal :=
  place value.toModel.unpack

theorem le_iff_height_le {first second : Float} : first ≤ second ↔
    Arithmetic.isNumber first ∧ Arithmetic.isNumber second ∧ height first ≤ height second := by
  rw [le_iff_rank_le, ← not_lt, rank, rank,
    ← place_lt_place_iff (canonical_unpack second) (canonical_unpack first), not_lt, height, height]

/-- The least number of steps that goes beyond the doubles. -/
def overflow : ℕ :=
  steps (2 ^ 52) 972

/-- Where so many steps lead, within the doubles. -/
noncomputable def limited (count : ℤ) : EReal :=
  if overflow ≤ count then ⊤ else if count ≤ -overflow then ⊥ else ((count : ℝ) : EReal)

theorem overflow_le_iff {significand : ℕ} {exponent : ℤ} (fills : Fills significand exponent) :
    overflow ≤ steps significand exponent ↔ 972 ≤ exponent := by
  have beyond : Fills (2 ^ 52) 972 := ⟨by decide, by decide, .inl le_rfl⟩
  rw [overflow, ← not_lt, fills.steps_lt_iff beyond]
  have := fills.full
  omega

theorem overflow_pos : 0 < overflow :=
  steps_pos (by decide) 972

theorem limited_neg (count : ℤ) : limited (-count) = -limited count := by
  have := overflow_pos
  unfold limited
  split_ifs <;> first | omega | simp

theorem limited_mono : Monotone limited := by
  intro first second below
  have := overflow_pos
  unfold limited
  split_ifs
  any_goals omega
  · exact le_rfl
  · exact bot_le
  · exact bot_le
  · exact bot_le
  · exact le_top
  · exact_mod_cast below

/-- Packing limits a finite number. -/
theorem height_packed {number : UnpackedFloat} (finite : number.isFinite)
    (canonical : Canonical number) : height (packed number) = limited (count number) := by
  have positive := overflow_pos
  cases number with
  | infinity | notANumber => cases finite
  | zero sign =>
    have unpacked : (packed (.zero sign)).toModel.unpack = .zero sign := by cases sign <;> rfl
    have above : ¬(overflow : ℤ) ≤ 0 := by omega
    have below : ¬(0 : ℤ) ≤ -overflow := by omega
    rw [height, unpacked]
    change ((0 : ℤ) : ℝ) = limited 0
    rw [limited, if_neg above, if_neg below]
  | finite sign significand exponent nonzero =>
    have limits : place (if 972 ≤ exponent then .infinity .positive
        else .finite .positive significand exponent nonzero) =
        limited (steps significand exponent) := by
      unfold limited
      have := overflow_le_iff canonical
      split_ifs
      any_goals omega
      · rfl
      · rfl
    rw [height, unpack_packed_finite nonzero canonical, count]
    cases sign with
    | positive => exact limits
    | negative =>
      rw [Sign.apply, limited_neg, ← limits]
      split_ifs
      · rfl
      · simp [place, count, Sign.apply]

end Places

section Sums

/-- Where the double lies that an exact place is rounded to. -/
noncomputable def rounded : EReal → EReal
  | ⊥ => ⊥
  | ⊤ => ⊤
  | (steps : ℝ) => limited (roundSigned 53 ⌊steps⌋)

theorem rounded_mono : Monotone rounded := by
  intro first second below
  induction first with
  | bot => exact bot_le
  | top => rw [top_le_iff.mp below]
  | coe steps =>
    induction second with
    | bot => exact absurd below (EReal.bot_lt_coe steps).not_ge
    | top => exact le_top
    | coe steps' =>
      exact limited_mono (roundSigned_mono (by decide)
        (Int.floor_mono (EReal.coe_le_coe_iff.mp below)))

theorem rounded_intCast (count : ℤ) :
    rounded ((count : ℝ) : EReal) = limited (roundSigned 53 count) := by
  change limited (roundSigned 53 ⌊(count : ℝ)⌋) = _
  rw [Int.floor_intCast]

theorem place_of_finite {number : UnpackedFloat} (finite : number.isFinite) :
    place number = ((count number : ℝ) : EReal) := by
  cases number with
  | infinity | notANumber => cases finite
  | zero | finite => rfl

theorem isNumber_packed {number : UnpackedFloat} (canonical : Canonical number) :
    Arithmetic.isNumber (packed number) ↔ number.isNaN = false := by
  rw [isNumber_iff]
  change (packed number).toModel.unpack.isNaN = false ↔ _
  cases number with
  | infinity sign | zero sign => cases sign <;> exact Iff.rfl
  | notANumber => exact Iff.rfl
  | finite sign significand exponent positive =>
    rw [unpack_packed_finite positive canonical]
    split_ifs <;> exact Iff.rfl

variable {left right : UnpackedFloat}

/-- Two numbers whose sum is one: they are not infinities of both kinds. -/
def Addable (left right : UnpackedFloat) : Prop :=
  (left.isNaN = false ∧ right.isNaN = false) ∧ ¬(place left = ⊤ ∧ place right = ⊥) ∧
    ¬(place left = ⊥ ∧ place right = ⊤)

/-- With a term that is not finite, a sum is an infinity if it is a number at all. -/
theorem add_of_not_finite (special : ¬(left.isFinite ∧ right.isFinite)) :
    ¬Addable left right ∧ UnpackedFloat.add .binary64 left right = .notANumber ∨
      Addable left right ∧ ∃ sign, UnpackedFloat.add .binary64 left right = .infinity sign ∧
        place left + place right = place (.infinity sign) := by
  rcases left with (_ | _) | _ | _ | _ <;> rcases right with (_ | _) | _ | _ | _ <;>
    simp [Addable, UnpackedFloat.isFinite, UnpackedFloat.isNaN, UnpackedFloat.add, place]
      at special ⊢

theorem addable_of_finite (finite : left.isFinite) (finite' : right.isFinite) :
    Addable left right := by
  rw [Addable, place_of_finite finite, place_of_finite finite']
  cases left <;> cases right <;> simp_all [UnpackedFloat.isFinite, UnpackedFloat.isNaN]

theorem add_spec (canonical : Canonical left) (canonical' : Canonical right) :
    (Arithmetic.isNumber (packed (.add .binary64 left right)) ↔ Addable left right) ∧
      (Addable left right →
        height (packed (.add .binary64 left right)) = rounded (place left + place right)) := by
  by_cases finite : left.isFinite ∧ right.isFinite
  · have rounds := rounds_add finite.1 finite.2 canonical canonical'
    have addable := addable_of_finite finite.1 finite.2
    have number : (UnpackedFloat.add .binary64 left right).isNaN = false := by
      have := rounds.finite
      revert this
      cases UnpackedFloat.add .binary64 left right <;>
        simp [UnpackedFloat.isFinite, UnpackedFloat.isNaN]
    refine ⟨iff_of_true ((isNumber_packed rounds.canonical).mpr number) addable, fun _ => ?_⟩
    rw [height_packed rounds.finite rounds.canonical, rounds.count_eq, place_of_finite finite.1,
      place_of_finite finite.2, ← EReal.coe_add, ← Int.cast_add, rounded_intCast]
  · rcases add_of_not_finite finite with ⟨void, sum⟩ | ⟨addable, sign, sum, place_eq⟩
    · rw [sum]
      exact ⟨iff_of_false (by decide) void, fun addable => absurd addable void⟩
    · rw [sum, place_eq]
      refine ⟨iff_of_true ?_ addable, fun _ => ?_⟩
      · cases sign <;> decide
      · cases sign <;> rfl

theorem canonical_neg (canonical : Canonical right) : Canonical right.neg := by
  cases right with
  | infinity | notANumber | zero => trivial
  | finite => exact canonical

theorem isNaN_neg (number : UnpackedFloat) : number.neg.isNaN = number.isNaN := by
  cases number <;> rfl

theorem place_neg (number : UnpackedFloat) : place number.neg = -place number := by
  rcases number with (_ | _) | _ | _ | ⟨_ | _, _, _, _⟩ <;>
    simp [UnpackedFloat.neg, place, count, Sign.apply]

/-- A difference is a sum with the opposite. -/
theorem sub_eq_add_neg (left right : UnpackedFloat) :
    UnpackedFloat.sub .binary64 left right = UnpackedFloat.add .binary64 left right.neg := by
  have apply_neg : ∀ (sign : Sign) (value : ℤ), (-sign).apply value = -sign.apply value := by
    intro sign value
    cases sign
    · exact (Int.neg_neg value).symm
    · rfl
  cases left <;> cases right <;> try rfl
  simp only [UnpackedFloat.sub, UnpackedFloat.add, UnpackedFloat.neg, apply_neg, Int.sub_eq_add_neg]

theorem sub_eq_packed (left right : Float) :
    left - right = packed (.add .binary64 left.toModel.unpack right.toModel.unpack.neg) :=
  congrArg packed (sub_eq_add_neg _ _)

end Sums

open Arithmetic in
/-- The sums of doubles are rounded from the exact ones. -/
theorem placed : Placed height rounded where
  le_iff := le_iff_height_le
  exists_top := ⟨infinity, isNumber_infinity, by rw [height, unpack_infinity]; rfl⟩
  exists_bot := ⟨-infinity, by decide, by rfl⟩
  rounded_mono := rounded_mono
  rounded_top := rfl
  isNumber_add_iff {left right} := by
    have spec := add_spec (canonical_unpack left) (canonical_unpack right)
    exact spec.1.trans (and_congr_left' (and_congr isNumber_iff.symm isNumber_iff.symm))
  isNumber_sub_iff {left right} := by
    have spec := add_spec (canonical_unpack left) (canonical_neg (canonical_unpack right))
    rw [sub_eq_packed, spec.1, Addable, isNaN_neg, place_neg, EReal.neg_eq_bot_iff,
      EReal.neg_eq_top_iff]
    exact and_congr_left' (and_congr isNumber_iff.symm isNumber_iff.symm)
  height_add {left right} number :=
    have spec := add_spec (canonical_unpack left) (canonical_unpack right)
    spec.2 (spec.1.mp number)
  height_sub {left right} number := by
    have spec := add_spec (canonical_unpack left) (canonical_neg (canonical_unpack right))
    rw [sub_eq_packed] at number ⊢
    rw [spec.2 (spec.1.mp number), place_neg]
    rfl

end Binary64

instance : Arithmetic.OrderedSums Float :=
  Binary64.placed.orderedSums

end LoopbackCalibration
