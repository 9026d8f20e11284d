import EntityGraph.Decimal.Binary64
import EntityGraph.Text.Blank
/-!
Numbers read from texts that people write, such as configuration values.

* `readInt?`: an integer with an optional sign, or one with a fraction of zeros. White space around
  it and zeros at its head do not count, and single underscores may separate its digits.
* `isOverlong`: whether there are more digits than are ever read.
* `readFloat?`: a decimal number with optional sign, point and exponent, or the words for infinity
  and not-a-number in any case. Either white space around it does not count, or single underscores
  within it do not.
* `wholeValue?`: the integer that a binary64 number is.
-/

namespace EntityGraph.Decimal

/-- White space as it is trimmed from numbers: the information separators are not part of it. -/
def isPadding (c : Char) : Bool := Text.isBlank c && !(28 ≤ c.toNat && c.toNat ≤ 31)

/-- The characters of a text without the padding at its two ends. -/
def trimmed (s : String) : List Char :=
  ((s.toList.dropWhile isPadding).reverse.dropWhile isPadding).reverse

/-- A sign at the head of a number: whether it is a minus, and the rest. -/
def takeSign : List Char → Bool × List Char
  | '-' :: rest => (true, rest)
  | '+' :: rest => (false, rest)
  | cs => (false, cs)

/-- The number that ASCII digits write. -/
def digitsNat (ds : List Char) : Nat := ds.foldl (fun n c => 10 * n + (c.toNat - 48)) 0

/-! ### Integers -/

/-- The zeros and underscores after a zero at the head of an integer. They end at the first other
digit, or at a minus, which then counts as the sign. Of zeros alone, or before a point, the last
character is kept. -/
def dropHeadZeros (last : Char) : List Char → Option (List Char)
  | [] => some [last]
  | c :: rest =>
    if c = '0' ∨ c = '_' then dropHeadZeros c rest
    else if c = '.' then some (last :: c :: rest)
    else if c.isDigit ∨ c = '-' then some (c :: rest)
    else none

/-- An integer without zeros at its head. A text that begins with neither a digit nor a minus is no
integer. -/
def dropZeros : List Char → Option (List Char)
  | [] => none
  | '0' :: rest => dropHeadZeros '0' rest
  | c :: rest => if c.isDigit ∨ c = '-' then some (c :: rest) else none

/-- Drop a fraction of one or more zeros. -/
def dropZeroFraction (cs : List Char) : List Char :=
  let fraction := (cs.dropWhile (· != '.')).tail
  if fraction ≠ [] ∧ fraction.all (· == '0') then cs.takeWhile (· != '.') else cs

/-- The characters without the underscores that stand between two digits. -/
def joinDigits : List Char → List Char
  | a :: '_' :: b :: rest =>
    if a.isDigit ∧ b.isDigit then a :: joinDigits (b :: rest)
    else a :: '_' :: joinDigits (b :: rest)
  | c :: rest => c :: joinDigits rest
  | [] => []

/-- The number that digits write, without zeros at its head. -/
def plainNat? (ds : List Char) : Option Nat :=
  if ds ≠ [] ∧ ds.all Char.isDigit ∧ (ds.head? = some '0' → ds.length = 1) then some (digitsNat ds)
  else none

/-- The number that digits write after an optional minus. -/
def plainInt? : List Char → Option Int
  | '-' :: ds => (plainNat? ds).map fun n => -(n : Int)
  | ds => (plainNat? ds).map Int.ofNat

/-- A plus at the head of a number does not count, unless a minus follows. -/
def dropPlus : List Char → Option (List Char)
  | '+' :: '-' :: _ => none
  | '+' :: rest => some rest
  | cs => some cs

/-- The sign and the digits that are left of an integer. -/
def plainDigits? (s : String) : Option (List Char) := do
  let digits ← dropZeros (← dropPlus (trimmed s))
  return joinDigits (dropZeroFraction digits)

/-- The integer that a text writes. -/
def readInt? (s : String) : Option Int := (plainDigits? s).bind plainInt?

/-- The number of digits beyond which an integer is not read. -/
def digitLimit : Nat := 4300

/-- Whether some characters begin with an integer that has too many digits, its sign being counted.
-/
def beginsOverlong (cs : List Char) : Bool :=
  let (sign, digits) := match cs with
    | '-' :: rest => (1, rest.takeWhile Char.isDigit)
    | cs => (0, cs.takeWhile Char.isDigit)
  digits.head? != some '0' && digitLimit < sign + digits.length

/-- Whether a text, or what is left of it, begins with an integer that has too many digits. -/
def isOverlong (s : String) : Bool :=
  beginsOverlong s.toList || (plainDigits? s).any beginsOverlong

/-! ### Binary64 numbers -/

/-- The characters without underscores, unless two stand together or one stands at an end. -/
def withoutUnderscores (cs : List Char) : List Char :=
  let doubled := (cs.zip cs.tail).any fun (a, b) => a == '_' && b == '_'
  if doubled || cs.head? == some '_' || cs.getLast? == some '_' then cs
  else cs.filter (· != '_')

/-- The exponent written after a mantissa, 0 when there is none. -/
def readExponent? : List Char → Option Int
  | [] => some 0
  | e :: rest =>
    let (negative, ds) := takeSign rest
    if (e = 'e' ∨ e = 'E') ∧ ds ≠ [] ∧ ds.all Char.isDigit then
      some (if negative then -(digitsNat ds : Int) else digitsNat ds)
    else none

/-- The value of `digits * 10 ^ exponent`. Exponents beyond the range of binary64 numbers are cut
short, which changes no value. -/
def scaled (digits : List Char) (exponent : Int) : Float :=
  let bound : Int := 400 + digits.length
  let exponent := max (-bound) (min bound exponent)
  Float.ofScientific (digitsNat digits) (exponent < 0) exponent.natAbs

/-- A number without its sign. -/
def readMagnitude? (cs : List Char) : Option Float :=
  let word := String.ofList (cs.map Char.toLower)
  if word = "inf" ∨ word = "infinity" then some (1.0 / 0.0)
  else if word = "nan" then some (0.0 / 0.0)
  else
    let whole := cs.takeWhile Char.isDigit
    let rest := cs.dropWhile Char.isDigit
    let (part, rest) := match rest with
      | '.' :: more => (more.takeWhile Char.isDigit, more.dropWhile Char.isDigit)
      | _ => ([], rest)
    if whole.isEmpty && part.isEmpty then none
    else (readExponent? rest).map fun e => scaled (whole ++ part) (e - part.length)

/-- A number with its sign. -/
def readSigned? (cs : List Char) : Option Float :=
  let (negative, cs) := takeSign cs
  (readMagnitude? cs).map fun x => if negative then -x else x

/-- The number that a text writes. -/
def readFloat? (s : String) : Option Float :=
  readSigned? (trimmed s) <|> readSigned? (withoutUnderscores s.toList)

/-- The integer that a binary64 number is, if it is one. -/
def wholeValue? (x : Float) : Option Int :=
  match classify x with
  | .finite m =>
    let (num, den) := m.fraction
    if num % den = 0 then integerPart? x else none
  | _ => none

end EntityGraph.Decimal
