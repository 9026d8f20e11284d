import EntityGraph.Query.Parse
import EntityGraph.Request
import EntityGraph.Traversal.Basic
import EntityGraph.Traversal.Literal
import EntityGraph.Value.Text
/-!
Keyword queries as traversals over documents.

* `predicateOf`: the condition on a document that a query becomes in a script.
* `matching`: the deduplicated and limited search for the documents that satisfy a query.
* `search`: the same for a query text; a text that is no query becomes the empty traversal.
* `predicateOfDraft_ofQuery`: on queries, the version for drafts is the same.
-/

namespace EntityGraph.Traversal

/-- The number of documents returned when no limit is given. -/
def defaultLimit : Int := 50

/-- The condition that some entity in the document has a value in a field. -/
def termPredicate (field value : String) : String :=
  "__.in('appears_in').hasLabel('entity').has(" ++ quoteLiteral field ++ ", "
    ++ quoteLiteral value ++ ")"

/-- The condition on a document that a query becomes. -/
def predicateOf : Query → String
  | .term t => termPredicate t.field t.value
  | .and l r => "__.and(" ++ predicateOf l ++ ", " ++ predicateOf r ++ ")"
  | .or l r => "__.or(" ++ predicateOf l ++ ", " ++ predicateOf r ++ ")"
  | .not x => "__.not(" ++ predicateOf x ++ ")"

/-- Why a draft does not become a search. -/
inductive CompileError where
  | foreign (node : ForeignNode)
  /-- The field or the value of a term is no text. -/
  | notText (e : NotText)
  | request (e : RequestError)
  deriving Repr

/-- The condition that a draft becomes, unless something in it is foreign. -/
def predicateOfDraft : Draft → Except CompileError String
  | .term field value => do
    let field ← (field.needText .replace).mapError .notText
    let value ← (value.needText .replace).mapError .notText
    return termPredicate field value
  | .and l r => do
    let l ← predicateOfDraft l
    let r ← predicateOfDraft r
    return "__.and(" ++ l ++ ", " ++ r ++ ")"
  | .or l r => do
    let l ← predicateOfDraft l
    let r ← predicateOfDraft r
    return "__.or(" ++ l ++ ", " ++ r ++ ")"
  | .not x => do
    let x ← predicateOfDraft x
    return "__.not(" ++ x ++ ")"
  | .foreign v => .error (.foreign ⟨v⟩)

/-- In queries, nothing is foreign. -/
@[simp] theorem predicateOfDraft_ofQuery (q : Query) :
    predicateOfDraft (.ofQuery q) = .ok (predicateOf q) := by
  induction q with
  | term t => rfl
  | and l r ihl ihr =>
    simp only [Draft.ofQuery, predicateOfDraft, predicateOf, ihl, ihr]
    rfl
  | or l r ihl ihr =>
    simp only [Draft.ofQuery, predicateOfDraft, predicateOf, ihl, ihr]
    rfl
  | not x ih =>
    simp only [Draft.ofQuery, predicateOfDraft, predicateOf, ih]
    rfl

/-- The search for the first `limit` documents that satisfy a condition. -/
def documentScript (predicate : String) (limit : Int) : String :=
  "g.V().hasLabel('document').where(" ++ predicate ++ ").dedup().limit(" ++ toString limit
    ++ ").valueMap(true)"

/-- The search for the first `limit` documents that satisfy a query. -/
def matching (q : Query) (limit : Int) : Traversal :=
  ⟨documentScript (predicateOf q) limit, [], .matchDocuments (.ofQuery q) limit⟩

/-- The condition of a draft and its search. The condition comes first, so that a foreign value is
reported before a bad limit. -/
def compileDraft (d : Draft) (limit : Value) : Except CompileError (String × Traversal) := do
  let predicate ← predicateOfDraft d
  let limit ← (positive "limit" limit).mapError .request
  return (predicate, ⟨documentScript predicate limit, [], .matchDocuments d limit⟩)

/-- The search for the documents that satisfy a query text. A text that is no query matches no
document. -/
def search (text : String) (limit : Value) : Except RequestError Traversal := do
  let limit ← positive "limit" limit
  match Query.parse? text with
  | some q => return matching q limit
  | none => return empty

end EntityGraph.Traversal
