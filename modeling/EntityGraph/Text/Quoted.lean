import EntityGraph.Text.PrintableTable
import EntityGraph.Text.Ranges
/-!
Texts shown inside messages: quoted, with everything unprintable escaped.

* `quoteMark`: single quotes, unless the text holds a single quote and no double quote.
* `showChar`: a backslash and the quote mark in use are escaped, the usual three control
  characters have letters, and other unprintable characters are written by their code, in two,
  four or eight hexadecimal digits.
* `quoted`: the whole text between its quote marks.
-/

namespace EntityGraph.Text

/-- Printable characters stand for themselves in a quoted text. -/
def isPrintable (c : Char) : Bool :=
  if c.toNat < 127 then 32 ≤ c.toNat else inRanges printableRanges c

/-- A number in hexadecimal with at least `width` digits. -/
def hexDigits (width n : Nat) : List Char :=
  let digits := Nat.toDigits 16 n
  List.replicate (width - digits.length) '0' ++ digits

/-- The quote mark that needs the fewest escapes: single, unless only double is free. -/
def quoteMark (cs : List Char) : Char :=
  if cs.contains '\'' && !cs.contains '"' then '"' else '\''

/-- One character of a quoted text. -/
def showChar (mark c : Char) : List Char :=
  if c = mark ∨ c = '\\' then ['\\', c]
  else if c = '\n' then ['\\', 'n']
  else if c = '\r' then ['\\', 'r']
  else if c = '\t' then ['\\', 't']
  else if isPrintable c then [c]
  else if c.toNat < 0x100 then '\\' :: 'x' :: hexDigits 2 c.toNat
  else if c.toNat < 0x10000 then '\\' :: 'u' :: hexDigits 4 c.toNat
  else '\\' :: 'U' :: hexDigits 8 c.toNat

/-- A text as messages show it. -/
def quoted (s : String) : String :=
  let cs := s.toList
  let mark := quoteMark cs
  String.ofList (mark :: cs.flatMap (showChar mark) ++ [mark])

end EntityGraph.Text
