import EntityGraph.Query.Basic
import EntityGraph.Value.Basic
/-!
Query trees from outside, in which a foreign value may stand where a query is expected.

* `Draft`: the shape of a query, with terms of any values and with foreign values in the place of
  queries.
* `Asked`: the field and the value of a term that was asked.
* `Draft.ofQuery`: every query is a draft.
* `Draft.ask`: short-circuit evaluation. It fails on the first foreign value it meets, and a foreign
  value behind a shortcut is never met. `ask_ofQuery` says that on queries it is `Query.ask`.
-/

namespace EntityGraph

/-- A query tree in which foreign values may stand for queries. -/
inductive Draft where
  | term (field value : Value)
  | and (left right : Draft)
  | or (left right : Draft)
  | not (operand : Draft)
  | foreign (v : Value)
  deriving BEq, Repr, Inhabited

/-- A foreign value was met where a query was needed. -/
structure ForeignNode where
  value : Value
  deriving Repr

/-- The field and the value of a term that was asked. -/
abbrev Asked := Value × Value

/-- A term as it is asked. -/
def Term.asked (t : Term) : Asked := (.str t.field, .str t.value)

namespace Draft

/-- A query as a draft. -/
def ofQuery : Query → Draft
  | .term t => term (.str t.field) (.str t.value)
  | .and l r => and (ofQuery l) (ofQuery r)
  | .or l r => or (ofQuery l) (ofQuery r)
  | .not x => not (ofQuery x)

/-- Short-circuit evaluation: the truth value and the terms asked, in order. -/
def ask (truth : Asked → Bool) : Draft → Except ForeignNode (Bool × List Asked)
  | term field value => .ok (truth (field, value), [(field, value)])
  | and l r => do
    let (b, asked) ← ask truth l
    if b then
      let (b, more) ← ask truth r
      return (b, asked ++ more)
    else return (false, asked)
  | or l r => do
    let (b, asked) ← ask truth l
    if b then return (true, asked)
    else
      let (b, more) ← ask truth r
      return (b, asked ++ more)
  | not x => do
    let (b, asked) ← ask truth x
    return (!b, asked)
  | foreign v => .error ⟨v⟩

/-- The truth value of a draft. -/
def holds (truth : Asked → Bool) (d : Draft) : Except ForeignNode Bool :=
  (d.ask truth).map Prod.fst

/-- On queries, evaluation never fails and is that of queries. -/
@[simp] theorem ask_ofQuery (truth : Asked → Bool) (q : Query) :
    (ofQuery q).ask truth
      = .ok ((q.ask fun t => truth t.asked).map id (List.map Term.asked)) := by
  induction q with
  | term t => rfl
  | and l r ihl ihr =>
    simp only [ofQuery, ask, ihl, ihr, Query.ask, bind, Except.bind, pure, Except.pure]
    rcases l.ask fun t => truth t.asked with ⟨_ | _, _⟩ <;> simp
  | or l r ihl ihr =>
    simp only [ofQuery, ask, ihl, ihr, Query.ask, bind, Except.bind, pure, Except.pure]
    rcases l.ask fun t => truth t.asked with ⟨_ | _, _⟩ <;> simp
  | not x ih => simp [ofQuery, ask, ih, Query.ask, bind, Except.bind, pure, Except.pure]

/-- On queries, the truth value is that of the query. -/
@[simp] theorem holds_ofQuery (truth : Asked → Bool) (q : Query) :
    (ofQuery q).holds truth = .ok (q.holds fun t => truth t.asked) := by
  simp [holds, Except.map]

end Draft

end EntityGraph
