/-!
Boolean keyword queries over documents.

* `Term`: the leaf condition that some entity of the document has a given value in a given field.
* `Query`: terms under conjunction, disjunction and negation.
* `Query.terms`: the terms of a query from left to right.
* `Query.holds`: the truth value of a query, given the truth of its terms.
* `Query.ask`: the same value found by short-circuit evaluation, with the terms that were asked.
  `ask_fst` says that the shortcut does not change the value.
* `Query.render`: a query as text; every conjunction and disjunction is in parentheses and every
  value in double quotes, so the text needs no rule of precedence to be read back.
-/

namespace EntityGraph

/-- A condition on the entities of a document: one of them has this value in this field. -/
structure Term where
  field : String
  value : String
  deriving DecidableEq, Repr, Inhabited

/-- A boolean query. -/
inductive Query where
  | term (t : Term)
  | and (left right : Query)
  | or (left right : Query)
  | not (operand : Query)
  deriving DecidableEq, Repr, Inhabited

namespace Query

/-- The field that a bare value is compared with. -/
def textField : String := "text"

/-- The fields that may be named before a colon, in their canonical spelling. -/
def filterFields : List String := ["category", "subCategory", "type"]

/-- The terms of a query, from left to right. -/
def terms : Query → List Term
  | term t => [t]
  | and l r => terms l ++ terms r
  | or l r => terms l ++ terms r
  | not x => terms x

/-- The truth value of a query. -/
def holds (truth : Term → Bool) : Query → Bool
  | term t => truth t
  | and l r => holds truth l && holds truth r
  | or l r => holds truth l || holds truth r
  | not x => !holds truth x

/-- Short-circuit evaluation: the truth value and the terms asked, in order. -/
def ask (truth : Term → Bool) : Query → Bool × List Term
  | term t => (truth t, [t])
  | and l r =>
    match ask truth l with
    | (true, asked) => let (b, more) := ask truth r; (b, asked ++ more)
    | (false, asked) => (false, asked)
  | or l r =>
    match ask truth l with
    | (true, asked) => (true, asked)
    | (false, asked) => let (b, more) := ask truth r; (b, asked ++ more)
  | not x => let (b, asked) := ask truth x; (!b, asked)

/-- Short-circuit evaluation finds the truth value. -/
@[simp] theorem ask_fst (truth : Term → Bool) (q : Query) : (q.ask truth).1 = q.holds truth := by
  induction q with
  | term t => rfl
  | and l r ihl ihr =>
    simp only [ask, holds, ← ihl, ← ihr]
    split <;> simp_all
  | or l r ihl ihr =>
    simp only [ask, holds, ← ihl, ← ihr]
    split <;> simp_all
  | not x ih => simp [ask, holds, ih]

/-! ### Rendering -/

/-- A character inside double quotes: the quote and the backslash take a backslash. -/
def escapeChar (c : Char) : List Char :=
  if c = '"' ∨ c = '\\' then ['\\', c] else [c]

/-- A value inside double quotes. -/
def quoteChars (value : String) : List Char :=
  '"' :: value.toList.flatMap escapeChar ++ ['"']

/-- The characters of a term: the field, unless it is the text field, and the quoted value. -/
def Term.renderChars (t : Term) : List Char :=
  if t.field = textField then quoteChars t.value
  else t.field.toList ++ ':' :: quoteChars t.value

/-- The characters of a query. -/
def renderChars : Query → List Char
  | term t => Term.renderChars t
  | and l r => '(' :: renderChars l ++ " AND ".toList ++ renderChars r ++ [')']
  | or l r => '(' :: renderChars l ++ " OR ".toList ++ renderChars r ++ [')']
  | not x => "NOT ".toList ++ renderChars x

/-- A query as text. -/
def render (q : Query) : String := String.ofList (renderChars q)

end Query

end EntityGraph
