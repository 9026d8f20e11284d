import EntityGraph.Checked.Basic
import EntityGraph.Decimal.Read
import EntityGraph.Value.Basic
/-!
Reading typed values from untyped ones.

Reading is lenient: a number may be written as a text, a whole number may be a binary64 number, and
a truth value may be written in several ways. What cannot be understood is a complaint.

* `text`, `filledText`, `integer`, `number`, `truth`, `choice`, `path`: single values. Integers
  taken from binary64 numbers are below 2 ^ 63 in size.
* `optional`, `listOf`, `textMap`, `fieldsOf`: values made of others.
* `required`, `withDefault`: the fields of a record, by name.
-/

namespace EntityGraph.Checked

variable {α : Type}

/-! ### Single values -/

/-- A text. -/
def text : Value → Checked String
  | .str s => valid s
  | _ => complain .notText

/-- A text with at least one character. -/
def filledText (v : Value) : Checked String :=
  (text v).andThen fun s => if s.isEmpty then complain .emptyText else valid s

/-- The whole numbers that are taken from a binary64 number. -/
def isModest (n : Int) : Bool := n.natAbs < Nat.pow 2 63

/-- The whole number that a binary64 number is. -/
def wholeNumber (x : Float) : Checked Int :=
  match Decimal.wholeValue? x with
  | some n => if isModest n then valid n else complain .hugeInteger
  | none => complain (if x.isFinite then .fractional else .notFinite)

/-- An integer: also a truth value, a whole binary64 number, or a text that writes an integer. -/
def integer : Value → Checked Int
  | .int n => valid n
  | .bool b => valid (if b then 1 else 0)
  | .float x => wholeNumber x
  | .str s =>
    if Decimal.isOverlong s then complain .hugeInteger
    else
      match Decimal.readInt? s with
      | some n => valid n
      | none => complain .unreadableInteger
  | _ => complain .notInteger

/-- A binary64 number: also an integer that is not beyond all of them, a truth value, or a text that
writes a number. -/
def number : Value → Checked Float
  | .float x => valid x
  | .int n =>
    let x := Float.ofInt n
    if x.isFinite then valid x else complain .notNumber
  | .bool b => valid (if b then 1.0 else 0.0)
  | .str s =>
    match Decimal.readFloat? s with
    | some x => valid x
    | none => complain .unreadableNumber
  | _ => complain .notNumber

/-- The texts that mean true, in lower case. -/
def trueWords : List String := ["1", "on", "t", "true", "y", "yes"]

/-- The texts that mean false, in lower case. -/
def falseWords : List String := ["0", "off", "f", "false", "n", "no"]

/-- The truth value of a whole number: only 0 and 1 have one. -/
def truthOfInt (n : Int) : Checked Bool :=
  if n = 0 then valid false
  else if n = 1 then valid true
  else if isModest n || n = -(Nat.pow 2 63 : Nat) then complain .unreadableTruth
  else complain .notTruth

/-- A truth value: also 0 and 1, and some words in any case. -/
def truth : Value → Checked Bool
  | .bool b => valid b
  | .int n => truthOfInt n
  | .float x =>
    match wholeNumber x with
    | .valid n => truthOfInt n
    | .invalid _ => complain .notTruth
  | .str s =>
    let word := String.ofList (s.toList.map Char.toLower)
    if word ∈ trueWords then valid true
    else if word ∈ falseWords then valid false
    else complain .unreadableTruth
  | _ => complain .notTruth

/-- One of the given texts. -/
def choice (choices : List String) : Value → Checked String
  | .str s => if s ∈ choices then valid s else complain (.notAmong choices)
  | _ => complain (.notAmong choices)

/-- A file path in its plain form: no repeated separators, no single dots, no separator at the end.
Two separators at the start, and no more, are kept. -/
def plainPath (s : String) : String :=
  let cs := s.toList
  let slashes := (cs.takeWhile (· == '/')).length
  let root := if slashes = 0 then "" else if slashes = 2 then "//" else "/"
  let names := (s.splitOn "/").filter fun part => part ≠ "" ∧ part ≠ "."
  let joined := root ++ "/".intercalate names
  if joined.isEmpty then "." else joined

/-- A file path. -/
def path : Value → Checked String
  | .str s => valid (plainPath s)
  | _ => complain .notPath

/-! ### Values made of others -/

/-- A value or null. -/
def optional (read : Value → Checked α) : Value → Checked (Option α)
  | .null => valid none
  | v => (read v).map some

/-- The items of a list, the first one at place `i`. -/
def items (read : Value → Checked α) : Nat → List Value → Checked (List α)
  | _, [] => valid []
  | i, v :: rest => List.cons <$> (read v).under (.item i) <*> items read (i + 1) rest

/-- A list. -/
def listOf (read : Value → Checked α) : Value → Checked (List α)
  | .list vs => items read 0 vs
  | _ => complain .notList

/-- The entries of a map from texts to texts. -/
def textEntries : Fields → Checked (List (String × String))
  | [] => valid []
  | (k, v) :: rest =>
    (fun s more => (k, s) :: more) <$> (text v).under (.field k) <*> textEntries rest

/-- A map from texts to texts. -/
def textMap : Value → Checked (List (String × String))
  | .object fields => textEntries fields
  | _ => complain .notMap

/-- The fields of a record of a named kind. -/
def fieldsOf (kind : String) : Value → Checked Fields
  | .object fields => valid fields
  | _ => complain (.notRecord kind)

/-! ### Fields of records -/

/-- The first of some names that is among the fields, with its value. -/
def firstNamed? (fields : Fields) (names : List String) : Option (String × Value) :=
  names.findSome? fun name => (fields.get? name).map (name, ·)

/-- A field that has to be there. It may have several names, the first of which is preferred. -/
def required (fields : Fields) (names : List String) (read : Value → Checked α) : Checked α :=
  match firstNamed? fields names with
  | some (name, v) => (read v).under (.field name)
  | none => invalid [⟨names.head?.toList.map .field, .missing⟩]

/-- A field with a default. It may have several names, the first of which is preferred. -/
def withDefault (fields : Fields) (names : List String) (default : α)
    (read : Value → Checked α) : Checked α :=
  match firstNamed? fields names with
  | some (name, v) => (read v).under (.field name)
  | none => valid default

end EntityGraph.Checked
