/-!
Decimal digits of every script. Each script's ten digits stand in ten consecutive code points, so
a table of the zeros is enough.

* `digitValue?`: the value 0 to 9 of a decimal digit, `none` for other characters.
* `readDigits?`: the number that a non-empty run of digits writes, most significant digit first.
-/

namespace EntityGraph.Text

/-- The zeros of the decimal digits of all scripts, in increasing order. -/
def digitZeros : List Nat := [
  48, 1632, 1776, 1984, 2406, 2534, 2662, 2790, 2918, 3046, 3174, 3302, 3430, 3558, 3664, 3792,
  3872, 4160, 4240, 6112, 6160, 6470, 6608, 6784, 6800, 6992, 7088, 7232, 7248, 42528, 43216,
  43264, 43472, 43504, 43600, 44016, 65296, 66720, 68912, 69734, 69872, 69942, 70096, 70384,
  70736, 70864, 71248, 71360, 71472, 71904, 72016, 72784, 73040, 73120, 92768, 92864, 93008,
  120782, 120792, 120802, 120812, 120822, 123200, 123632, 125264, 130032]

/-- The value of a decimal digit. -/
def digitValue? (c : Char) : Option Nat :=
  (digitZeros.find? fun z => z ≤ c.toNat && c.toNat < z + 10).map (c.toNat - ·)

/-- Whether a character is a decimal digit. -/
def isDigit (c : Char) : Bool := (digitValue? c).isSome

/-- The value of a digit, 0 for other characters. -/
def digitValue (c : Char) : Nat := (digitValue? c).getD 0

/-- The number written by a run of digits. -/
def digitsValue (cs : List Char) : Nat := cs.foldl (fun n c => 10 * n + digitValue c) 0

/-- The number that a text writes when it is a non-empty run of decimal digits. -/
def readDigits? (cs : List Char) : Option Nat :=
  if cs ≠ [] ∧ cs.all isDigit then some (digitsValue cs) else none

end EntityGraph.Text
