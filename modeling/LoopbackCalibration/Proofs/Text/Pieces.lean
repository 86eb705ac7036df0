import Mathlib.Data.List.DropRight
import LoopbackCalibration.Text.Blank

/-! # Pieces of text

The pieces between separators are those of the library (`Text.split_eq_splitOn`), so texts
that are free of the separator come back after they have been joined. A text is cut once at the
first separator that it has. Trimming leaves a text whose ends are not blank, and leaves such a
text alone.
-/

namespace LoopbackCalibration

namespace Text

variable {separator character : Char} {text first second : List Char}

theorem split_eq_splitOn (separator : Char) (text : List Char) :
    split separator text = text.splitOn separator := by
  induction text with
  | nil => rfl
  | cons character rest ih =>
      rw [split, ih, List.splitOn_cons_eq_if_modifyHead]
      by_cases here : character = separator
      · simp [here]
      · cases pieces : rest.splitOn separator with
        | nil => exact absurd pieces (List.splitOn_ne_nil separator rest)
        | cons piece others => simp [here]

theorem split_append_cons (separator : Char) (first second : List Char) :
    split separator (first ++ separator :: second) =
      split separator first ++ split separator second := by
  simp only [split_eq_splitOn, List.splitOn_append_cons_self]

theorem split_intercalate {pieces : List (List Char)} (filled : pieces ≠ [])
    (apart : ∀ piece ∈ pieces, separator ∉ piece) :
    split separator ([separator].intercalate pieces) = pieces := by
  rw [split_eq_splitOn, List.splitOn_intercalate separator apart filled]

theorem not_mem_of_mem_split : ∀ piece ∈ split separator text, separator ∉ piece := by
  induction text with
  | nil => simp [split]
  | cons character rest ih =>
      rw [split]
      by_cases here : character = separator
      · simpa [here] using ih
      · cases pieces : split separator rest with
        | nil => simp [here, Ne.symm here]
        | cons piece others =>
            rw [pieces] at ih
            simpa [here, Ne.symm here] using ih

theorem splitOnce?_append_cons (absent : separator ∉ first) :
    splitOnce? separator (first ++ separator :: second) = some (first, second) := by
  induction first with
  | nil => simp [splitOnce?]
  | cons character rest ih =>
      rw [List.mem_cons, not_or] at absent
      obtain ⟨other, later⟩ := absent
      simp [splitOnce?, Ne.symm other, ih later]

theorem splitOnce?_of_not_mem (absent : separator ∉ text) : splitOnce? separator text = none := by
  induction text with
  | nil => rfl
  | cons character rest ih =>
      rw [List.mem_cons, not_or] at absent
      obtain ⟨other, later⟩ := absent
      simp [splitOnce?, Ne.symm other, ih later]

/-- Neither end of the text is blank. -/
structure Neat (text : List Char) : Prop where
  head : ∀ character ∈ text.head?, isBlank character = false
  last : ∀ character ∈ text.getLast?, isBlank character = false

theorem neat_nil : Neat [] :=
  ⟨nofun, nofun⟩

private theorem dropWhile_of_head (solid : ∀ character ∈ text.head?, isBlank character = false) :
    text.dropWhile isBlank = text := by
  cases text with
  | nil => rfl
  | cons character rest => simp [solid character rfl]

private theorem head_dropWhile (text : List Char) :
    ∀ character ∈ (text.dropWhile isBlank).head?, isBlank character = false := by
  intro character member
  have ends := List.head?_dropWhile_not isBlank text
  rw [member] at ends
  exact ends

theorem trim_eq_rdropWhile (text : List Char) :
    trim text = (text.dropWhile isBlank).rdropWhile isBlank :=
  rfl

theorem mem_of_mem_trim (member : character ∈ trim text) : character ∈ text := by
  have kept := (List.dropWhile_sublist isBlank).mem (List.mem_reverse.mp member)
  exact (List.dropWhile_sublist isBlank).mem (List.mem_reverse.mp kept)

theorem neat_trim (text : List Char) : Neat (trim text) := by
  constructor
  · intro character member
    apply head_dropWhile text
    obtain ⟨blanks, split⟩ := List.rdropWhile_prefix isBlank (text.dropWhile isBlank)
    rw [← split]
    exact List.mem_head?_append_of_mem_head? member
  · intro character member
    apply head_dropWhile (text.dropWhile isBlank).reverse
    rw [trim, List.getLast?_reverse] at member
    exact member

theorem trim_of_neat (neat : Neat text) : trim text = text := by
  have tail : text.reverse.dropWhile isBlank = text.reverse := by
    apply dropWhile_of_head
    rw [List.head?_reverse]
    exact neat.last
  rw [trim, dropWhile_of_head neat.head, tail, List.reverse_reverse]

theorem Neat.append_cons (before : Neat first) (after : Neat second)
    (solid : isBlank separator = false) : Neat (first ++ separator :: second) := by
  constructor
  · cases first with
    | nil => simpa using solid
    | cons character rest => exact before.head
  · cases second with
    | nil => simpa using solid
    | cons character rest => simpa [List.getLast?_cons_cons] using after.last

theorem trim_eq_nil_iff : trim text = [] ↔ ∀ character ∈ text, isBlank character := by
  rw [trim_eq_rdropWhile, List.rdropWhile_eq_nil_iff, ← List.dropWhile_eq_nil_iff,
    List.dropWhile_idempotent, List.dropWhile_eq_nil_iff]

/-- What begins a neat text is blank only if it is empty. -/
theorem Neat.eq_nil_of_trim_left (neat : Neat (first ++ second)) (blank : trim first = []) :
    first = [] := by
  cases first with
  | nil => rfl
  | cons character rest =>
      have solid := neat.head character rfl
      simp [trim_eq_nil_iff.mp blank character List.mem_cons_self] at solid

/-- What ends a neat text is blank only if it is empty. -/
theorem Neat.eq_nil_of_trim_right (neat : Neat (first ++ second)) (blank : trim second = []) :
    second = [] := by
  cases last : second.getLast? with
  | none => exact List.getLast?_eq_none_iff.mp last
  | some character =>
      have solid := neat.last character (List.mem_getLast?_append_of_mem_getLast? last)
      simp [trim_eq_nil_iff.mp blank character (List.mem_of_getLast? last)] at solid

end Text

end LoopbackCalibration
