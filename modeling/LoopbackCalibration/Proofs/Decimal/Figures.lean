import Mathlib.Tactic.SplitIfs
import LoopbackCalibration.Decimal

/-! # The characters of decimal texts

The text of a double is made of digits, a point, a minus sign and the letters of the words for what
is not finite (`Decimal.figures_plain`, `Decimal.figures_fixed`).
-/

namespace LoopbackCalibration

namespace Decimal

/-- A character that a number may be written with. -/
def IsFigure (character : Char) : Prop :=
  character.isDigit ∨ character ∈ ['.', '-', 'N', 'a', 'i', 'n', 'f']

instance (character : Char) : Decidable (IsFigure character) :=
  inferInstanceAs (Decidable (_ ∨ _))

/-- The text is made of the characters of numbers. -/
def Figures (text : String) : Prop :=
  ∀ character ∈ text.toList, IsFigure character

-- By the characters of the text: the search over all characters would not end.
instance (text : String) : Decidable (Figures text) :=
  List.decidableBAll IsFigure text.toList

theorem Figures.append {first second : String} (left : Figures first) (right : Figures second) :
    Figures (first ++ second) := by
  unfold Figures
  rw [String.toList_append]
  exact List.forall_mem_append.mpr ⟨left, right⟩

theorem figures_ofList {characters : List Char}
    (digits : ∀ character ∈ characters, character.isDigit) :
    Figures (String.ofList characters) := by
  unfold Figures
  rw [String.toList_ofList]
  exact fun character member => .inl (digits character member)

theorem figures_of_sublist {part whole : List Char} (among : part.Sublist whole)
    (digits : ∀ character ∈ whole, character.isDigit) : Figures (String.ofList part) :=
  figures_ofList fun character member => digits character (among.mem member)

theorem isDigit_of_mem_digitsOf {value : Nat} :
    ∀ character ∈ digitsOf value, character.isDigit :=
  fun _ => Nat.isDigit_of_mem_toDigits (by decide) (by decide)

theorem isDigit_of_mem_zeros {count : Nat} :
    ∀ character ∈ List.replicate count '0', character.isDigit := by
  intro character member
  rw [List.eq_of_mem_replicate member]
  rfl

theorem Significant.isDigit_of_mem_trimmed {number : Significant} :
    ∀ character ∈ number.trimmed, character.isDigit := by
  intro character member
  have kept := (List.dropWhile_sublist _).mem (List.mem_reverse.mp member)
  exact isDigit_of_mem_digitsOf character (List.mem_reverse.mp kept)

theorem Significant.figures_plain (number : Significant) : Figures number.plain := by
  unfold plain
  dsimp only
  split_ifs with small short
  · exact Figures.append (by decide) (figures_ofList (List.forall_mem_append.mpr
      ⟨isDigit_of_mem_zeros, isDigit_of_mem_trimmed⟩))
  · exact figures_ofList (List.forall_mem_append.mpr
      ⟨isDigit_of_mem_trimmed, isDigit_of_mem_zeros⟩)
  · exact ((figures_of_sublist (List.take_sublist _ _) isDigit_of_mem_trimmed).append
      (by decide)).append (figures_of_sublist (List.drop_sublist _ _) isDigit_of_mem_trimmed)

theorem figures_placed (places units : Nat) : Figures (placed places units) := by
  have padded : ∀ character ∈ List.replicate (places + 1 - (digitsOf units).length) '0' ++
      digitsOf units, character.isDigit :=
    List.forall_mem_append.mpr ⟨isDigit_of_mem_zeros, isDigit_of_mem_digitsOf⟩
  unfold placed
  dsimp only
  refine (figures_of_sublist (List.take_sublist _ _) padded).append ?_
  split_ifs
  · decide
  · exact Figures.append (by decide) (figures_of_sublist (List.drop_sublist _ _) padded)

theorem figures_signed {zero : String} {positive : Nat → Int → String} (void : Figures zero)
    (digits : ∀ significand exponent, Figures (positive significand exponent)) (value : Float) :
    Figures (signed zero positive value) := by
  unfold signed
  split
  · decide
  · split_ifs <;> decide
  · next negative significand exponent _ =>
    have magnitude : Figures (if significand = 0 then zero else positive significand exponent) := by
      split_ifs
      · exact void
      · exact digits significand exponent
    cases negative
    · exact magnitude
    · exact Figures.append (by decide) magnitude

theorem figures_plain (value : Float) : Figures (plain value) :=
  figures_signed (by decide) (fun _ _ => Significant.figures_plain _) value

theorem figures_fixed (places : Nat) (value : Float) : Figures (fixed places value) :=
  figures_signed (figures_placed places 0) (fun _ _ => figures_placed places _) value

end Decimal

end LoopbackCalibration
