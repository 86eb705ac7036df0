/-! # Blank characters

The characters with the Unicode property White_Space, and text without those at
its ends.
-/

namespace LoopbackCalibration

namespace Text

/-- Whether a character has the Unicode property White_Space. -/
def isBlank (character : Char) : Bool :=
  let code := character.toNat
  (9 ≤ code && code ≤ 13) || code == 0x20 || code == 0x85 || code == 0xA0 || code == 0x1680 ||
    (0x2000 ≤ code && code ≤ 0x200A) || code == 0x2028 || code == 0x2029 || code == 0x202F ||
    code == 0x205F || code == 0x3000

/-- The text without the blanks at its two ends. -/
def trim (text : List Char) : List Char :=
  ((text.dropWhile isBlank).reverse.dropWhile isBlank).reverse

/-- The pieces between the occurrences of a separator, one more than there are
occurrences. -/
def split (separator : Char) : List Char → List (List Char)
  | [] => [[]]
  | character :: rest =>
    if character = separator then
      [] :: split separator rest
    else
      match split separator rest with
      | [] => [[character]]
      | piece :: pieces => (character :: piece) :: pieces

/-- The text before and after the first occurrence of a separator. -/
def splitOnce? (separator : Char) : List Char → Option (List Char × List Char)
  | [] => none
  | character :: rest =>
    if character = separator then
      some ([], rest)
    else
      (splitOnce? separator rest).map fun (before, after) => (character :: before, after)

end Text

end LoopbackCalibration
