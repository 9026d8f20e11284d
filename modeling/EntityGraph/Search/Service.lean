import EntityGraph.Recording.Batch
import EntityGraph.Search.Bounds
import EntityGraph.Search.Row
import EntityGraph.Traversal.Find
import EntityGraph.Traversal.Match
/-!
Searches over the graph.

Arguments come as callers give them. They are checked one after the other, and the graph is asked at
most once, and only when all of them are in order.

* `keywords`: documents by a query text. A text that is no query matches nothing.
* `byCategory`, `byText`, `related`, `documentsFor`, `entitiesIn`, `frequent`, `common`: structured
  searches.
* `byEntities`: documents in which all of some entities appear.
* `naturalLanguage`: the same for the entities found in a question.
-/

namespace EntityGraph.Search

/-- Hand a traversal to the graph as a named operation. -/
def run (operation : String) (t : Traversal) : Action (List Row) := do
  let rows ← Action.during operation (Action.execute t)
  Action.log .debug searchLog (operation ++ " returned " ++ toString rows.length ++ " rows")
  return rows

/-- The same, with the rows flattened. -/
def runFlat (operation : String) (t : Traversal) : Action (List Row) := do
  return (← run operation t).map Row.flatten

/-- A text that is not blank. -/
def needText (name : String) (given : Value) : Action String :=
  Action.ofExcept ((requireText name given).mapError .request)

/-- A text that is missing or not blank. -/
def needText? (name : String) (given : Value) : Action (Option String) :=
  match given with
  | .null => pure none
  | v => some <$> needText name v

/-- What is logged when a query text is read that was given as a value. -/
def logReading (given : Value) (text : String) : Action Unit :=
  match Query.parse text with
  | .ok _ => pure ()
  | .error e => do
    Action.log .debug "podgraph.query.parser"
      ("Rejected query " ++ given.display ++ ": " ++ e.message)
    Action.log .info "podgraph.query.compiler" "Query did not parse, returning empty traversal"

/-- The traversal for a query text. -/
def keywordTraversal (query : Value) (limit : Int) : Action Traversal := do
  discard <| Action.ofExcept ((positive "limit" (.int limit)).mapError .request)
  match query.readable? with
  | some text =>
    logReading query text
    Action.ofExcept ((Traversal.search text (.int limit)).mapError .request)
  | none => Action.fail .wrongType

/-- Documents that satisfy a query text. -/
def keywords (b : Bounds) (query limit : Value) : Action (List Row) := do
  let limit ← b.limit (match limit with | .null => b.defaultLimit | v => v)
  runFlat "search" (← keywordTraversal query limit)

/-- Entities of a category and, when given, of a subcategory. -/
def byCategory (b : Bounds) (category subCategory limit : Value) : Action (List Row) := do
  let category ← needText "category" category
  let subCategory ← needText? "sub_category" subCategory
  let limit ← b.limit limit
  runFlat "find_entities_by_category" (.entitiesByCategory category subCategory limit)

/-- Entities whose text contains a pattern and, when given, of a category. -/
def byText (b : Bounds) (pattern category limit : Value) : Action (List Row) := do
  let pattern ← needText "pattern" pattern
  let category ← needText? "category" category
  let limit ← b.limit limit
  runFlat "search_entities_by_text_pattern" (.entitiesByText pattern category limit)

/-- Entities within a number of hops of a given one. -/
def related (b : Bounds) (text maxHops limit : Value) : Action (List Row) := do
  let text ← needText "entity_text" text
  let hops ← b.hops maxHops
  let limit ← b.limit limit
  runFlat "find_related_entities" (.relatedEntities (vertexId text) hops limit)

/-- Documents in which an entity appears. -/
def documentsFor (b : Bounds) (text limit : Value) : Action (List Row) := do
  let text ← needText "entity_text" text
  let limit ← b.limit limit
  runFlat "find_documents_for_entity" (.documentsForEntity (vertexId text) limit)

/-- Entities that appear in a document, with the edges that say so. -/
def entitiesIn (document : Value) : Action (List Row) := do
  let document ← needText "document_id" document
  return (← run "find_entities_in_document" (.entitiesInDocument document)).map
    Row.flattenAppearance

/-- Pairs of entities that share at least a number of documents. -/
def frequent (b : Bounds) (minimum limit : Value) : Action (List Row) := do
  let minimum ← Action.ofExcept ((positive "min_occurrences" minimum).mapError .request)
  let limit ← b.limit limit
  return (← run "find_frequent_co_occurring_entities" (.frequentPairs minimum limit)).map
    Row.flattenPair

/-- The identities of some entities, each once and in the order of their first mention. -/
def seedsFrom (seen : List String) : List Value → Action (List String)
  | [] => pure seen
  | v :: rest => do
    let text ← needText "entity text" v
    let id := vertexId text
    seedsFrom (if id ∈ seen then seen else seen ++ [id]) rest

/-- Entities joined to every one of at least two given ones. An object stands for its keys. -/
def common (b : Bounds) (texts limit : Value) : Action (List Row) := do
  let items ← match texts with
    | .str _ => Action.fail (.request .textInsteadOfTexts)
    | .list items => pure items
    | .object fields => pure (fields.map fun (k, _) => .str k)
    | _ => Action.fail .wrongType
  let seeds ← seedsFrom [] items
  if seeds.length < 2 then Action.fail (.request .tooFewTexts)
  else
    let limit ← b.limit limit
    runFlat "find_common_connections" (.commonConnections seeds limit)

/-- The query for the documents in which all of some texts appear, if there are any texts. -/
def conjunction : List String → Option Query
  | [] => none
  | t :: rest =>
    some (rest.foldl (fun q t => .and q (.term ⟨Query.textField, t⟩)) (.term ⟨Query.textField, t⟩))

/-- Documents in which all of some entities appear. No entities match nothing. -/
def byEntities (b : Bounds) (entities : List Entity) (limit : Value) : Action (List Row) := do
  let limit ← b.limit limit
  match conjunction (entities.map (·.text)).eraseDups with
  | none => runFlat "search_by_entities" .empty
  | some q =>
    discard <| Action.ofExcept ((positive "limit" (.int limit)).mapError .request)
    runFlat "search_by_entities" (.matching q limit)

/-- Documents in which all entities found in a question appear. -/
def naturalLanguage (b : Bounds) (recognize : Recording.Recognizer) (question limit : Value) :
    Action (List Row) := do
  let question ← needText "question" question
  let limit ← b.limit limit
  fun s =>
    match recognize [question] s with
    | (.error e, s) =>
      if Recording.isExtractionFailure e then
        (do
          Action.log .warning searchLog
            ("Entity recognition failed for question: " ++ e.message)
          return [] : Action (List Row)) s
      else (.error e, s)
    | (.ok results, s) =>
      let unanswered (reason : String) : Action (List Row) := do
        Action.log .warning searchLog ("No entities recognized for question: " ++ reason)
        return []
      match results.head? with
      | none => unanswered "empty response" s
      | some r =>
        match r.error with
        | some e => unanswered e s
        | none =>
          (do
            Action.log .debug searchLog
              ("Question resolved to " ++ toString r.entities.length ++ " entities")
            byEntities b r.entities (.int limit) : Action (List Row)) s

end EntityGraph.Search
