import EntityGraph.Decimal.Shortest
import EntityGraph.Value.Basic
/-!
Values as JSON text.

* `Value.toJson`: one line of printable ASCII, with `", "` and `": "` as separators, fields in their
  order, and everything outside printable ASCII escaped by UTF-16 units.
* `Value.ofJson?`: reads one JSON value with optional white space around it. A number with a point
  or an exponent is a binary64 number, any other an integer.
-/

namespace EntityGraph.Value

/-! ### Writing -/

/-- One UTF-16 unit as an escape. -/
def jsonUnit (n : Nat) : List Char :=
  let digits := Nat.toDigits 16 n
  '\\' :: 'u' :: (List.replicate (4 - digits.length) '0' ++ digits)

/-- One character of a JSON string. -/
def jsonChar (c : Char) : List Char :=
  if c = '"' then ['\\', '"']
  else if c = '\\' then ['\\', '\\']
  else if c = '\n' then ['\\', 'n']
  else if c = '\r' then ['\\', 'r']
  else if c = '\t' then ['\\', 't']
  else if c = '\x08' then ['\\', 'b']
  else if c = '\x0c' then ['\\', 'f']
  else if 32 ≤ c.toNat ∧ c.toNat < 127 then [c]
  else if c.toNat < 0x10000 then jsonUnit c.toNat
  else
    let n := c.toNat - 0x10000
    jsonUnit (0xD800 + n / 0x400) ++ jsonUnit (0xDC00 + n % 0x400)

/-- A text as a JSON string. -/
def jsonString (s : String) : String :=
  String.ofList ('"' :: s.toList.flatMap jsonChar ++ ['"'])

/-- A binary64 number in JSON. -/
def jsonFloat (x : Float) : String :=
  if x.isNaN then "NaN"
  else if x.isInf then (if x < 0 then "-Infinity" else "Infinity")
  else Decimal.shortestText x

mutual

/-- A value as one line of JSON. -/
def toJson : Value → String
  | null => "null"
  | bool b => if b then "true" else "false"
  | int n => toString n
  | float x => jsonFloat x
  | str s => jsonString s
  | list items => "[" ++ toJsonItems items ++ "]"
  | object fields => "\x7b" ++ toJsonFields fields ++ "\x7d"

/-- The items of a list, separated by commas. -/
def toJsonItems : List Value → String
  | [] => ""
  | [v] => toJson v
  | v :: rest => toJson v ++ ", " ++ toJsonItems rest

/-- The fields of an object, separated by commas. -/
def toJsonFields : List (String × Value) → String
  | [] => ""
  | [(k, v)] => jsonString k ++ ": " ++ toJson v
  | (k, v) :: rest => jsonString k ++ ": " ++ toJson v ++ ", " ++ toJsonFields rest

end

/-! ### Reading -/

/-- White space between the parts of a JSON text. -/
def isJsonBlank (c : Char) : Bool := c == ' ' || c == '\n' || c == '\r' || c == '\t'

/-- Skip white space. -/
def skipBlank (cs : List Char) : List Char := cs.dropWhile isJsonBlank

/-- The value of a hexadecimal digit. -/
def hexValue? (c : Char) : Option Nat :=
  if c.isDigit then some (c.toNat - 48)
  else if 'a' ≤ c ∧ c ≤ 'f' then some (c.toNat - 87)
  else if 'A' ≤ c ∧ c ≤ 'F' then some (c.toNat - 55)
  else none

/-- Four hexadecimal digits. -/
def hexUnit? (a b c d : Char) : Option Nat := do
  let a ← hexValue? a
  let b ← hexValue? b
  let c ← hexValue? c
  let d ← hexValue? d
  some (((a * 16 + b) * 16 + c) * 16 + d)

/-- The rest of a JSON string after its opening quote: the text and what follows the closing
quote. The characters read so far come last first. -/
def readString (read : List Char) : List Char → Option (String × List Char)
  | [] => none
  | '"' :: rest => some (String.ofList read.reverse, rest)
  | '\\' :: 'u' :: a :: b :: c :: d :: '\\' :: 'u' :: a' :: b' :: c' :: d' :: rest =>
    match hexUnit? a b c d, hexUnit? a' b' c' d' with
    | some high, some low =>
      if 0xD800 ≤ high ∧ high < 0xDC00 then
        if 0xDC00 ≤ low ∧ low < 0xE000 then
          readString (Char.ofNat (0x10000 + (high - 0xD800) * 0x400 + (low - 0xDC00)) :: read) rest
        else none
      else if 0xDC00 ≤ high ∧ high < 0xE000 then none
      else readString (Char.ofNat high :: read) ('\\' :: 'u' :: a' :: b' :: c' :: d' :: rest)
    | _, _ => none
  | '\\' :: 'u' :: a :: b :: c :: d :: rest =>
    match hexUnit? a b c d with
    | some unit =>
      if 0xD800 ≤ unit ∧ unit < 0xE000 then none
      else readString (Char.ofNat unit :: read) rest
    | none => none
  | '\\' :: 'n' :: rest => readString ('\n' :: read) rest
  | '\\' :: 'r' :: rest => readString ('\r' :: read) rest
  | '\\' :: 't' :: rest => readString ('\t' :: read) rest
  | '\\' :: 'b' :: rest => readString ('\x08' :: read) rest
  | '\\' :: 'f' :: rest => readString ('\x0c' :: read) rest
  | '\\' :: c :: rest =>
    if c = '"' ∨ c = '\\' ∨ c = '/' then readString (c :: read) rest else none
  | c :: rest => if c.toNat < 32 ∨ c = '\\' then none else readString (c :: read) rest
  termination_by cs => cs.length

/-- The number written by decimal digits. -/
def decimalNat (ds : List Char) : Nat := ds.foldl (fun n c => 10 * n + (c.toNat - 48)) 0

/-- A number without its sign: an integer, or a binary64 number when a point or an exponent is
written. -/
def readNumber (negative : Bool) (cs : List Char) : Option (Value × List Char) :=
  let whole := cs.takeWhile Char.isDigit
  let rest := cs.dropWhile Char.isDigit
  if whole.isEmpty then none
  else
    let (part, rest) : List Char × List Char := match rest with
      | '.' :: more => (more.takeWhile Char.isDigit, more.dropWhile Char.isDigit)
      | _ => ([], rest)
    let (power, rest) : Option (Bool × List Char) × List Char := match rest with
      | e :: more =>
        if e = 'e' ∨ e = 'E' then
          let (below, more) : Bool × List Char := match more with
            | '-' :: more => (true, more)
            | '+' :: more => (false, more)
            | _ => (false, more)
          (some (below, more.takeWhile Char.isDigit), more.dropWhile Char.isDigit)
        else (none, rest)
      | [] => (none, rest)
    if part.isEmpty && power.isNone then
      let n : Int := decimalNat whole
      some (int (if negative then -n else n), rest)
    else
      let shift : Int := match power with
        | some (true, ds) => -(decimalNat ds : Int)
        | some (false, ds) => decimalNat ds
        | none => 0
      let shift := shift - (part.length : Int)
      let x := Float.ofScientific (decimalNat (whole ++ part)) (shift < 0) shift.natAbs
      some (float (if negative then -x else x), rest)

/-- The literals that start with a letter. -/
def readWord (cs : List Char) : Option (Value × List Char) :=
  let word := String.ofList (cs.takeWhile Char.isAlpha)
  let rest := cs.dropWhile Char.isAlpha
  if word = "null" then some (null, rest)
  else if word = "true" then some (bool true, rest)
  else if word = "false" then some (bool false, rest)
  else if word = "NaN" then some (float (0.0 / 0.0), rest)
  else if word = "Infinity" then some (float (1.0 / 0.0), rest)
  else none

mutual

/-- A value at the head of a text, with nesting bounded by `fuel`. -/
def readValue (fuel : Nat) (cs : List Char) : Option (Value × List Char) :=
  match fuel with
  | 0 => none
  | fuel + 1 =>
    match skipBlank cs with
    | '"' :: rest => (readString [] rest).map fun (s, rest) => (str s, rest)
    | '[' :: rest =>
      match skipBlank rest with
      | ']' :: rest => some (list [], rest)
      | rest => (readItems fuel rest).map fun (items, rest) => (list items, rest)
    | '\x7b' :: rest =>
      match skipBlank rest with
      | '\x7d' :: rest => some (object [], rest)
      | rest => (readFields fuel rest).map fun (fields, rest) => (object fields, rest)
    | '-' :: rest =>
      if rest.head? = some 'I' then
        match readWord rest with
        | some (float x, rest) => some (float (-x), rest)
        | _ => none
      else readNumber true rest
    | c :: rest => if c.isDigit then readNumber false (c :: rest) else readWord (c :: rest)
    | [] => none

/-- The items of a list up to its closing bracket. -/
def readItems (fuel : Nat) (cs : List Char) : Option (List Value × List Char) :=
  match fuel with
  | 0 => none
  | fuel + 1 =>
    match readValue fuel cs with
    | none => none
    | some (v, rest) =>
      match skipBlank rest with
      | ',' :: rest => (readItems fuel rest).map fun (items, rest) => (v :: items, rest)
      | ']' :: rest => some ([v], rest)
      | _ => none

/-- The fields of an object up to its closing brace. -/
def readFields (fuel : Nat) (cs : List Char) : Option (List (String × Value) × List Char) :=
  match fuel with
  | 0 => none
  | fuel + 1 =>
    match skipBlank cs with
    | '"' :: rest =>
      match readString [] rest with
      | none => none
      | some (k, rest) =>
        match skipBlank rest with
        | ':' :: rest =>
          match readValue fuel rest with
          | none => none
          | some (v, rest) =>
            match skipBlank rest with
            | ',' :: rest =>
              (readFields fuel rest).map fun (fields, rest) => ((k, v) :: fields, rest)
            | '\x7d' :: rest => some ([(k, v)], rest)
            | _ => none
        | _ => none
    | _ => none

end

/-- The value that a JSON text writes. Nesting is never deeper than the text is long. -/
def ofJson? (s : String) : Option Value :=
  let cs := s.toList
  match readValue (2 * cs.length + 2) cs with
  | some (v, rest) => if (skipBlank rest).isEmpty then some v else none
  | none => none

end EntityGraph.Value
