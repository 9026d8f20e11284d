import EntityGraph.Text.Ranges
/-!
White space and what is done with it.

* `isBlank`: the separators and the control characters that count as white space, including the
  four information separators U+001C to U+001F and the next-line control U+0085.
* `strip`: a text without the white space at its two ends.
* `isBlankText`: a text of white space only; the empty text is one.
-/

namespace EntityGraph.Text

/-- Ranges of the white-space characters. -/
def blankRanges : List (Nat × Nat) :=
  [(9, 13), (28, 32), (133, 133), (160, 160), (5760, 5760), (8192, 8202), (8232, 8233),
    (8239, 8239), (8287, 8287), (12288, 12288)]

/-- White space. -/
def isBlank (c : Char) : Bool := inRanges blankRanges c

/-- The characters of a text without the white space at its two ends. -/
def stripChars (cs : List Char) : List Char :=
  ((cs.dropWhile isBlank).reverse.dropWhile isBlank).reverse

/-- A text without the white space at its two ends. -/
def strip (s : String) : String := String.ofList (stripChars s.toList)

/-- Whether a text holds nothing but white space. -/
def isBlankText (s : String) : Bool := s.toList.all isBlank

end EntityGraph.Text
