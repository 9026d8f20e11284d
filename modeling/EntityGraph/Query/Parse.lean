import EntityGraph.Query.Basic
import EntityGraph.Query.Token
/-!
Reading a query from its text.

Negation binds tightest, then conjunction, then disjunction; both binary operators associate to the
left, and two operands side by side are a conjunction.

* `ParseError`: why a text is not a query, with the offset at fault and the wording.
* `Parse`: the parser as an automaton over tokens. A state holds the operand just completed and, for
  each open parenthesis, what is pending there (`Pending`); a bare word waits for the next token,
  which tells whether it was a field name.
* `parse`: the query that a text writes.
-/

namespace EntityGraph.Query

/-- What the grammar allows at a place. -/
inductive Expected where
  | term
  | rightParen
  | endOfQuery
  deriving DecidableEq, Repr

/-- Why a text is not a query. A missing lexeme stands for the end of the text. -/
inductive ParseError where
  | unreadable (e : ScanError)
  | empty
  | mismatch (wanted : Expected) (found : Option Lexeme) (position : Nat)
  | unknownField (name : String) (position : Nat)
  deriving DecidableEq, Repr

namespace ParseError

/-- The offset that an error points at. -/
def position : ParseError → Nat
  | unreadable (.unexpected _ n) | unreadable (.unterminated n) => n
  | empty => 0
  | mismatch _ _ n | unknownField _ n => n

/-- What an error says, without its offset. -/
def reason : ParseError → String
  | unreadable (.unexpected c _) => "Unexpected character " ++ Text.quoted (String.singleton c)
  | unreadable (.unterminated _) => "Unterminated quoted string"
  | empty => "Empty query"
  | mismatch wanted found _ =>
    let kind := (found.map Lexeme.kind).getD "EOF"
    let value := Text.quoted ((found.map Lexeme.value).getD "")
    let wanted := match wanted with
      | .term => "a term"
      | .rightParen => "RPAREN"
      | .endOfQuery => "EOF"
    "Expected " ++ wanted ++ ", found " ++ kind ++ " " ++ value
  | unknownField name _ =>
    "Unknown field " ++ Text.quoted name ++ "; expected one of "
      ++ ", ".intercalate filterFields

/-- A reason with the offset it concerns, when there is one. -/
def located (reason : String) : Option String → String
  | none => reason
  | some offset => reason ++ " (at offset " ++ offset ++ ")"

/-- What an error says. -/
def message (e : ParseError) : String := located e.reason (some (toString e.position))

end ParseError

/-- The canonical spelling of a field name, which may be written in any case. -/
def fieldNamed? (name : String) : Option String :=
  filterFields.find? fun f => Text.lowerAscii f = Text.lowerAscii name

/-- What waits for an operand inside one pair of parentheses: the left operand of an `or`, the left
operand of an `and`, and a number of negations. -/
structure Pending where
  disjunct : Option Query
  conjunct : Option Query
  negations : Nat
  deriving DecidableEq, Repr

namespace Pending

/-- Nothing is pending at the start and after an opening parenthesis. -/
def nothing : Pending := ⟨none, none, 0⟩

/-- Put negations in front of an operand. -/
def negate : Nat → Query → Query
  | 0, q => q
  | n + 1, q => .not (negate n q)

/-- The conjunction of the pending conjunct, if any, with a complete operand. -/
def conjoin (conjunct : Option Query) (q : Query) : Query :=
  match conjunct with
  | none => q
  | some l => .and l q

/-- The disjunction of the pending disjunct, if any, with a complete conjunction. -/
def disjoin (disjunct : Option Query) (q : Query) : Query :=
  match disjunct with
  | none => q
  | some l => .or l q

end Pending

/-- A complete operand: what it continues inside its parentheses, and what is pending around each
open parenthesis, innermost first. -/
structure Completed where
  disjunct : Option Query
  conjunction : Query
  outer : List Pending
  deriving DecidableEq, Repr

namespace Completed

/-- An operand completed where `pending` was waiting for it. -/
def of (pending : Pending) (outer : List Pending) (q : Query) : Completed :=
  ⟨pending.disjunct, Pending.conjoin pending.conjunct (Pending.negate pending.negations q), outer⟩

/-- Everything inside the current parentheses, as one query. -/
def whole (c : Completed) : Query := Pending.disjoin c.disjunct c.conjunction

end Completed

/-- The state of the parser. -/
inductive Parse where
  /-- An operand has to follow. -/
  | operand (pending : Pending) (outer : List Pending)
  /-- A bare word was read where an operand may stand. -/
  | word (text : String) (position : Nat) (pending : Pending) (outer : List Pending)
  /-- A field name and its colon were read. -/
  | value (field : String) (pending : Pending) (outer : List Pending)
  /-- An operand is complete. -/
  | complete (c : Completed)
  deriving DecidableEq, Repr

namespace Parse

/-- A token where an operand has to follow. -/
def stepOperand (pending : Pending) (outer : List Pending) (t : Token) :
    Except ParseError Parse :=
  match t.lexeme with
  | .not _ => .ok (operand { pending with negations := pending.negations + 1 } outer)
  | .leftParen => .ok (operand .nothing (pending :: outer))
  | .word s => .ok (word s t.position pending outer)
  | .quoted s => .ok (complete (.of pending outer (.term ⟨textField, s⟩)))
  | other => .error (.mismatch .term (some other) t.position)

/-- A token after a complete operand. One that can start an operand continues a conjunction. -/
def stepComplete (c : Completed) (t : Token) : Except ParseError Parse :=
  match t.lexeme with
  | .and _ => .ok (operand ⟨c.disjunct, some c.conjunction, 0⟩ c.outer)
  | .or _ => .ok (operand ⟨some c.whole, none, 0⟩ c.outer)
  | .rightParen =>
    match c.outer with
    | [] => .error (.mismatch .endOfQuery (some .rightParen) t.position)
    | pending :: outer => .ok (complete (.of pending outer c.whole))
  | .colon =>
    let wanted := if c.outer.isEmpty then Expected.endOfQuery else Expected.rightParen
    .error (.mismatch wanted (some .colon) t.position)
  | .leftParen | .not _ | .word _ | .quoted _ =>
    stepOperand ⟨c.disjunct, some c.conjunction, 0⟩ c.outer t

/-- One token. -/
def step : Parse → Token → Except ParseError Parse
  | operand pending outer, t => stepOperand pending outer t
  | word s position pending outer, t =>
    match t.lexeme with
    | .colon =>
      match fieldNamed? s with
      | some field => .ok (value field pending outer)
      | none => .error (.unknownField s position)
    | _ => stepComplete (.of pending outer (.term ⟨textField, s⟩)) t
  | value field pending outer, t =>
    match t.lexeme with
    | .word s | .quoted s => .ok (complete (.of pending outer (.term ⟨field, s⟩)))
    | other => .error (.mismatch .term (some other) t.position)
  | complete c, t => stepComplete c t

/-- The end of the text, at offset `stop`, after a complete operand. -/
def finishComplete (stop : Nat) (c : Completed) : Except ParseError Query :=
  if c.outer.isEmpty then .ok c.whole else .error (.mismatch .rightParen none stop)

/-- The end of the text, at offset `stop`. -/
def finish (stop : Nat) : Parse → Except ParseError Query
  | operand _ _ | value _ _ _ => .error (.mismatch .term none stop)
  | word s _ pending outer => finishComplete stop (.of pending outer (.term ⟨textField, s⟩))
  | complete c => finishComplete stop c

/-- The state reached from a state by a list of tokens. -/
def run (s : Parse) (tokens : List Token) : Except ParseError Parse := tokens.foldlM step s

end Parse

/-- The query that a list of tokens writes, in a text of length `stop`. -/
def parseTokens (tokens : List Token) (stop : Nat) : Except ParseError Query :=
  if tokens.isEmpty then .error .empty
  else do
    let s ← Parse.run (.operand .nothing []) tokens
    s.finish stop

/-- The query that a text writes. -/
def parse (text : String) : Except ParseError Query :=
  match tokenize text with
  | .error e => .error (.unreadable e)
  | .ok tokens => parseTokens tokens text.length

/-- The query that a text writes, if it writes one. -/
def parse? (text : String) : Option Query := (parse text).toOption

end EntityGraph.Query
