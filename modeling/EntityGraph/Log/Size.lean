import EntityGraph.Text.Blank
import EntityGraph.Text.Digit
import EntityGraph.Text.Quoted
/-!
Sizes of log files, such as `10MB`.

* `readSize`: digits of any script, optional white space and a unit in any case.
* `SizeError`: why a text is no size. The Kelvin sign passes for the letter K while the unit is
  recognized, but stands for no unit afterwards.
-/

namespace EntityGraph.Log

/-- Why a text is no size. -/
inductive SizeError where
  | malformed (text : String)
  | unknownUnit (unit : String)
  | tooManyDigits (count : Nat)
  deriving DecidableEq, Repr

/-- What an error says. -/
def SizeError.message : SizeError → String
  | malformed text => "Invalid size format: " ++ Text.quoted text ++ ". Use e.g. '10MB'."
  | unknownUnit unit => Text.quoted unit
  | tooManyDigits count =>
    "Exceeds the limit (4300 digits) for integer string conversion: value has " ++ toString count
      ++ " digits; use sys.set_int_max_str_digits() to increase the limit"

/-- The most digits that a size may have. -/
def maxSizeDigits : Nat := 4300

/-- The units and their sizes in bytes. -/
def sizeUnits : List (String × Nat) :=
  [("B", 1), ("KB", 1024), ("MB", 1024 * 1024), ("GB", 1024 * 1024 * 1024)]

/-- A letter without its case; the Kelvin sign is taken for a K. -/
def foldLetter (c : Char) : Char := if c = '\u212a' then 'K' else c.toUpper

/-- Whether some characters are recognized as a unit. -/
def isUnit (cs : List Char) : Bool :=
  (sizeUnits.map Prod.fst).contains (String.ofList (cs.map foldLetter))

/-- The size in bytes that a text writes. -/
def readSize (text : String) : Except SizeError Nat :=
  let cs := Text.stripChars text.toList
  let digits := cs.takeWhile Text.isDigit
  let unit := (cs.dropWhile Text.isDigit).dropWhile Text.isBlank
  if digits.isEmpty || !isUnit unit then .error (.malformed text)
  else if maxSizeDigits < digits.length then .error (.tooManyDigits digits.length)
  else
    let name := String.ofList (unit.map Char.toUpper)
    match sizeUnits.lookup name with
    | some bytes => .ok (Text.digitsValue digits * bytes)
    | none => .error (.unknownUnit name)

end EntityGraph.Log
