/-!
Message templates taken apart.

A template is text with directives. A directive starts with a percent sign and ends with the letter
of a conversion; in between it may name its argument and say how wide and how exact the result is to
be.

* `Extent`, `Directive`, `Piece`: the parts of a template.
* `Directive.read`: the directive at the head of some characters, with their number.
* `pieces`: a template as literal characters and directives.
* `Directive.fit`: a converted value in the width that a directive asks for.
-/

namespace EntityGraph.Log

/-- A width or a precision: written in the template, or taken from the arguments. -/
inductive Extent where
  | number (n : Nat)
  | argument
  deriving DecidableEq, Repr

/-- The name of an argument, which ends at the parenthesis that closes it. -/
inductive ArgumentName where
  | closed (name : String)
  | unclosed
  deriving DecidableEq, Repr

/-- How one argument is put in place. -/
structure Directive where
  name : Option ArgumentName := none
  /-- Blanks go behind the value, not in front of it. -/
  left : Bool := false
  /-- A plus stands in front of numbers that are not negative. -/
  plus : Bool := false
  /-- A blank stands in front of numbers that are not negative. -/
  blank : Bool := false
  /-- The base of a number is marked, and its point is kept. -/
  alternate : Bool := false
  /-- Numbers are filled up with zeros. -/
  zero : Bool := false
  width : Option Extent := none
  precision : Option Extent := none
  /-- The letter of the conversion and its place in the template; none when the template ends
  before it. -/
  conversion : Option (Char × Nat) := none
  deriving DecidableEq, Repr

/-- A part of a template. -/
inductive Piece where
  | literal (c : Char)
  | directive (d : Directive)
  deriving DecidableEq, Repr

namespace Directive

/-- The characters up to the parenthesis that closes `depth + 1` open ones. -/
def nameTo : (depth : Nat) → List Char → Option (List Char)
  | _, [] => none
  | 0, ')' :: _ => some []
  | depth + 1, ')' :: rest => (nameTo depth rest).map (')' :: ·)
  | depth, '(' :: rest => (nameTo (depth + 1) rest).map ('(' :: ·)
  | depth, c :: rest => (nameTo depth rest).map (c :: ·)

/-- The name of the argument at the head of some characters, and what follows it. -/
def readName : List Char → Option ArgumentName × List Char
  | '(' :: rest =>
    match nameTo 0 rest with
    | some name => (some (.closed (String.ofList name)), rest.drop (name.length + 1))
    | none => (some .unclosed, [])
  | cs => (none, cs)

/-- The letters of flags. -/
def isFlag (c : Char) : Bool := c == '-' || c == '+' || c == ' ' || c == '#' || c == '0'

/-- The width or precision at the head of some characters, and what follows it. -/
def readExtent : List Char → Option Extent × List Char
  | '*' :: rest => (some .argument, rest)
  | cs =>
    let digits := cs.takeWhile Char.isDigit
    if digits.isEmpty then (none, cs)
    else
      (some (.number (digits.foldl (fun n c => 10 * n + (c.toNat - 48)) 0)),
        cs.drop digits.length)

/-- The precision behind a point, and what follows it. A point alone asks for none. -/
def readPrecision : List Char → Option Extent × List Char
  | '.' :: rest =>
    let (extent, rest) := readExtent rest
    (some (extent.getD (.number 0)), rest)
  | cs => (none, cs)

/-- One letter that says how large a number is has no meaning. -/
def dropSizeLetter : List Char → List Char
  | c :: rest => if c = 'h' ∨ c = 'l' ∨ c = 'L' then rest else c :: rest
  | [] => []

/-- The directive at the head of some characters behind a percent sign, and the number of characters
that it takes. The first of them has the place `start` in the template. -/
def read (start : Nat) (cs : List Char) : Directive × Nat :=
  let (name, rest) := readName cs
  let flags := rest.takeWhile isFlag
  let (width, rest) := readExtent (rest.drop flags.length)
  let (precision, rest) := readPrecision rest
  let rest := dropSizeLetter rest
  let taken := cs.length - rest.length
  let d : Directive :=
    { name, width, precision
      left := flags.contains '-', plus := flags.contains '+', blank := flags.contains ' '
      alternate := flags.contains '#', zero := flags.contains '0' }
  match rest with
  | c :: _ => ({ d with conversion := some (c, start + taken) }, taken + 1)
  | [] => (d, taken)

/-- Blanks or zeros. -/
def filling (c : Char) (count : Nat) : String := String.ofList (List.replicate count c)

/-- A text in a width. -/
def fit (d : Directive) (width : Nat) (text : String) : String :=
  let missing := width - text.length
  if d.left then text ++ filling ' ' missing else filling ' ' missing ++ text

/-- A number in a width: the sign comes first, then the mark of the base, then zeros if they are
asked for. -/
def fitNumber (d : Directive) (width : Nat) (negative : Bool) (mark digits : String) : String :=
  let sign := if negative then "-" else if d.plus then "+" else if d.blank then " " else ""
  let missing := width - (sign.length + mark.length + digits.length)
  if d.left then sign ++ mark ++ digits ++ filling ' ' missing
  else if d.zero then sign ++ mark ++ filling '0' missing ++ digits
  else filling ' ' missing ++ sign ++ mark ++ digits

end Directive

/-- The pieces of a template from a place on, leaving out the next `skip` characters. Two percent
signs stand for one. -/
def piecesFrom : (place skip : Nat) → List Char → List Piece
  | _, _, [] => []
  | place, skip + 1, _ :: rest => piecesFrom (place + 1) skip rest
  | place, 0, c :: rest =>
    if c = '%' ∧ rest.head? = some '%' then .literal '%' :: piecesFrom (place + 1) 1 rest
    else if c = '%' then
      let (d, taken) := Directive.read (place + 1) rest
      .directive d :: piecesFrom (place + 1) taken rest
    else .literal c :: piecesFrom (place + 1) 0 rest

/-- The pieces of a template. -/
def pieces (template : String) : List Piece := piecesFrom 0 0 template.toList

end EntityGraph.Log
