import EntityGraph.Decimal.Scientific
import EntityGraph.Log.Directive
import EntityGraph.Value.Display
/-!
Message templates filled in.

* `TemplateError`: why a template cannot be filled in.
* `Arguments`: values taken one after the other, or by name from an object.
* `convert`: one value as a directive asks for it.
* `fillIn`: a template with its arguments in place. Without arguments the template is the message
  (`fillIn_nil`).
-/

namespace EntityGraph.Log

/-- Why a template cannot be filled in. -/
inductive TemplateError where
  /-- There are too many or too few arguments, or one of the wrong kind. -/
  | misfit
  /-- The template ends within a directive. -/
  | unfinished
  /-- The template ends within the name of an argument. -/
  | unfinishedName
  /-- No conversion has this letter, which has the given place in the template. -/
  | unknownConversion (letter : Char) (place : Nat)
  /-- There is no argument with this name. -/
  | unknownName (name : String)
  | tooWide
  | tooExact
  /-- An infinite number has no integer part. -/
  | infinite
  /-- What is not a number has no integer part. -/
  | notANumber
  /-- An integer lies beyond all binary64 numbers. -/
  | tooLarge
  /-- There is no character with this code. -/
  | noCharacter
  deriving DecidableEq, Repr

/-- What an error says. -/
def TemplateError.message : TemplateError → String
  | misfit => "the arguments do not fit"
  | unfinished => "incomplete format"
  | unfinishedName => "incomplete format key"
  | unknownConversion letter place =>
    let shown := if 31 ≤ letter.toNat ∧ letter.toNat ≤ 126 then letter else '?'
    "unsupported format character '" ++ String.singleton shown ++ "' (0x"
      ++ String.ofList (Nat.toDigits 16 letter.toNat) ++ ") at index " ++ toString place
  | unknownName name => Text.quoted name
  | tooWide => "width too big"
  | tooExact => "precision too big"
  | infinite => "cannot convert float infinity to integer"
  | notANumber => "cannot convert float NaN to integer"
  | tooLarge => "int too large to convert to float"
  | noCharacter => "%c arg not in range(0x110000)"

/-! ### Arguments -/

/-- The arguments that are left. -/
inductive Arguments where
  /-- Values taken one after the other. -/
  | inOrder (rest : List Value)
  /-- Values taken by name, and the one that is taken without a name, unless it has been. -/
  | byName (all : Fields) (current : Option Value)
  deriving Repr

/-- Work on a template, which takes arguments. -/
abbrev Filling := StateT Arguments (Except TemplateError)

namespace Arguments

/-- A single object that has fields is a set of named arguments. -/
def ofValues : List Value → Arguments
  | [.object (f :: rest)] => byName (f :: rest) (some (.object (f :: rest)))
  | values => inOrder values

/-- The next argument. -/
def next : Filling Value := fun a =>
  match a with
  | inOrder (v :: rest) => .ok (v, inOrder rest)
  | byName all (some v) => .ok (v, byName all none)
  | _ => .error .misfit

/-- Make the argument with a name the next one. -/
def select (name : ArgumentName) : Filling Unit := fun a =>
  match a, name with
  | inOrder _, _ => .error .misfit
  | byName .., .unclosed => .error .unfinishedName
  | byName all _, .closed name =>
    match all.get? name with
    | some v => .ok ((), byName all (some v))
    | none => .error (.unknownName name)

/-- Whether arguments are left that should have been taken. -/
def isLeftOver : Arguments → Bool
  | inOrder rest => !rest.isEmpty
  | byName .. => false

end Arguments

/-! ### Conversions -/

/-- The integer that a value is; a truth value is one. -/
def wholeOf : Value → Except TemplateError Int
  | .int n => .ok n
  | .bool b => .ok (if b then 1 else 0)
  | _ => .error .misfit

/-- The integer part of a value. -/
def integerOf : Value → Except TemplateError Int
  | .float x =>
    match Decimal.integerPart? x with
    | some n => .ok n
    | none => .error (if x.isNaN then .notANumber else .infinite)
  | v => wholeOf v

/-- The binary64 number that a value is or is nearest to. -/
def numberOf : Value → Except TemplateError Float
  | .float x => .ok x
  | v => do
    let x := Float.ofInt (← wholeOf v)
    if x.isFinite then return x else .error .tooLarge

/-- A text with everything outside ASCII escaped by its code. -/
def asciiText (s : String) : String :=
  String.ofList <| s.toList.flatMap fun c =>
    if c.toNat < 0x80 then [c]
    else if c.toNat < 0x100 then '\\' :: 'x' :: Text.hexDigits 2 c.toNat
    else if c.toNat < 0x10000 then '\\' :: 'u' :: Text.hexDigits 4 c.toNat
    else '\\' :: 'U' :: Text.hexDigits 8 c.toNat

/-- The character that a value is or whose code it is. -/
def characterOf : Value → Except TemplateError String
  | .str s => if s.length = 1 then .ok s else .error .misfit
  | v => do
    let n ← wholeOf v
    if 0 ≤ n ∧ n < 0x110000 then return String.singleton (Char.ofNat n.toNat)
    else .error .noCharacter

/-- The digits of an integer in a base, at least as many as the precision asks for. -/
def basedDigits (base : Nat) (precision : Option Nat) (n : Int) : String :=
  let ds := Nat.toDigits base n.natAbs
  Directive.filling '0' (precision.getD 0 - ds.length) ++ String.ofList ds

/-- The digits of a binary64 number, without its sign. -/
def numberDigits (letter : Char) (precision : Nat) (keepPoint : Bool) (x : Float) : String :=
  match Decimal.classify x with
  | .notANumber => "nan"
  | .infinite => "inf"
  | .finite m =>
    if letter = 'e' then Decimal.scientificText precision keepPoint m
    else if letter = 'g' then Decimal.compactText precision keepPoint m
    else
      Decimal.fixedText precision x.abs ++ (if keepPoint && precision = 0 then "." else "")

/-- A text in capital letters; for texts that are known to be ASCII. -/
def capitals (s : String) : String := String.ofList (s.toList.map Char.toUpper)

/-- The first characters of a text, as many as the precision allows. -/
def cut (precision : Option Nat) (s : String) : String :=
  match precision with
  | some n => String.ofList (s.toList.take n)
  | none => s

/-- A value as a directive asks for it, in a width and with a precision. -/
def convert (d : Directive) (width : Nat) (precision : Option Nat) (letter : Char) (place : Nat)
    (v : Value) : Except TemplateError String := do
  let integer (base : Nat) (mark : String) (n : Int) : String :=
    d.fitNumber width (n < 0) (if d.alternate then mark else "") (basedDigits base precision n)
  let number (letter : Char) (upper : Bool) : Except TemplateError String := do
    let x ← numberOf v
    let digits := numberDigits letter (precision.getD 6) d.alternate x
    return d.fitNumber width (Decimal.isNegative x && !x.isNaN) ""
      (if upper then capitals digits else digits)
  match letter with
  | 's' => return d.fit width (cut precision v.plain)
  | 'r' => return d.fit width (cut precision v.display)
  | 'a' => return d.fit width (cut precision (asciiText v.display))
  | 'c' => return d.fit width (← characterOf v)
  | 'd' | 'i' | 'u' => return integer 10 "" (← integerOf v)
  | 'o' => return integer 8 "0o" (← wholeOf v)
  | 'x' => return integer 16 "0x" (← wholeOf v)
  | 'X' => return capitals (integer 16 "0x" (← wholeOf v))
  | 'e' | 'f' | 'g' => number letter false
  | 'E' | 'F' | 'G' => number letter.toLower true
  | _ => .error (.unknownConversion letter place)

/-! ### Filling in -/

/-- The integer that an argument gives for a width or a precision. -/
def extentArgument : Filling Int := do
  let v ← Arguments.next
  match wholeOf v with
  | .ok n => return n
  | .error e => throw e

/-- The largest width that can be asked for. -/
def maxWidth : Nat := Nat.pow 2 63 - 1

/-- The largest precision that can be asked for. -/
def maxPrecision : Nat := Nat.pow 2 31 - 1

/-- The width that a directive asks for, and whether it puts blanks behind the value. -/
def widthOf : Option Extent → Filling (Nat × Bool)
  | none => return (0, false)
  | some (.number n) => if n ≤ maxWidth then return (n, false) else throw .tooWide
  | some .argument => do
    let n ← extentArgument
    return (n.natAbs, n < 0)

/-- The precision that a directive asks for. -/
def precisionOf : Option Extent → Filling (Option Nat)
  | none => return none
  | some (.number n) => if n ≤ maxPrecision then return some n else throw .tooExact
  | some .argument => do
    let n ← extentArgument
    return some n.toNat

/-- A directive with its argument in place. -/
def Directive.fill (d : Directive) : Filling String := do
  if let some name := d.name then Arguments.select name
  let (width, left) ← widthOf d.width
  let d := { d with left := d.left || left }
  let precision ← precisionOf d.precision
  match d.conversion with
  | none => throw .unfinished
  | some (letter, place) =>
    let v ← Arguments.next
    match convert d width precision letter place v with
    | .ok shown => return shown
    | .error e => throw e

/-- Pieces with the arguments in place. -/
def fillPieces : List Piece → Filling String
  | [] => return ""
  | .literal c :: rest => return String.singleton c ++ (← fillPieces rest)
  | .directive d :: rest => do
    let shown ← d.fill
    return shown ++ (← fillPieces rest)

/-- A template with its arguments in place. -/
def fillIn (template : String) (args : List Value) : Except TemplateError String :=
  if args.isEmpty then .ok template
  else
    match (fillPieces (pieces template)).run (.ofValues args) with
    | .ok (message, rest) => if rest.isLeftOver then .error .misfit else .ok message
    | .error e => .error e

/-- Without arguments the template is the message. -/
@[simp] theorem fillIn_nil (template : String) : fillIn template [] = .ok template := rfl

end EntityGraph.Log
