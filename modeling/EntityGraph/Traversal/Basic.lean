import EntityGraph.Query.Draft
/-!
Traversals: what is handed to a graph engine.

A traversal carries a script with named bindings, for engines that run scripts, and the operation
that the script encodes, for engines that carry it out directly.

* `Operation`: the writes and reads that the graph knows, the one that returns nothing, and steps
  with arguments of any kind.
* `Operation.step`, `Operation.arguments`: an operation as a named step with named arguments.
* `Traversal`: script, bindings and operation. `Traversal.empty` returns no rows on any engine.
-/

namespace EntityGraph

/-- An argument of a step: a plain value or a query tree. -/
inductive Argument where
  | value (v : Value)
  | query (d : Draft)
  deriving Repr, Inhabited

/-- Arguments by name. -/
abbrev NamedArguments := List (String × Argument)

/-- What a traversal does to the graph or asks of it. -/
inductive Operation where
  /-- Create a vertex unless there is one with this id. -/
  | upsertVertex (id label : String) (properties : Fields)
  /-- Create an edge unless there is one with this label and these end points. -/
  | upsertEdge (label source target : String) (properties : Fields)
  | matchDocuments (query : Draft) (limit : Int)
  | entitiesByCategory (category : String) (subCategory : Option String) (limit : Int)
  | entitiesByText (pattern : String) (category : Option String) (limit : Int)
  | relatedEntities (entity : String) (maxHops limit : Int)
  | documentsForEntity (entity : String) (limit : Int)
  | entitiesInDocument (document : String)
  | frequentPairs (minimum limit : Int)
  | commonConnections (seeds : List String) (limit : Int)
  /-- Return no rows. -/
  | nothing
  /-- A step that need not be one, with arguments that need not fit it. -/
  | loose (step : Value) (arguments : NamedArguments)
  deriving Repr, Inhabited

namespace Operation

/-- The name of the step of an operation. -/
def step : Operation → Value
  | upsertVertex .. => .str "upsert_vertex"
  | upsertEdge .. => .str "upsert_edge"
  | matchDocuments .. => .str "match_documents"
  | entitiesByCategory .. => .str "entities_by_category"
  | entitiesByText .. => .str "entities_by_text"
  | relatedEntities .. => .str "related_entities"
  | documentsForEntity .. => .str "documents_for_entity"
  | entitiesInDocument .. => .str "entities_in_document"
  | frequentPairs .. => .str "frequent_co_occurrences"
  | commonConnections .. => .str "common_connections"
  | nothing => .str "empty"
  | loose s _ => s

/-- The arguments of an operation, by name. -/
def arguments : Operation → NamedArguments
  | upsertVertex id label properties =>
    [("vertex_id", .value (.str id)), ("label", .value (.str label)),
      ("properties", .value (.object properties))]
  | upsertEdge label source target properties =>
    [("label", .value (.str label)), ("out_id", .value (.str source)),
      ("in_id", .value (.str target)), ("properties", .value (.object properties))]
  | matchDocuments query limit => [("query", .query query), ("limit", .value (.int limit))]
  | entitiesByCategory category subCategory limit =>
    [("category", .value (.str category)), ("sub_category", .value (.ofText? subCategory)),
      ("limit", .value (.int limit))]
  | entitiesByText pattern category limit =>
    [("pattern", .value (.str pattern)), ("category", .value (.ofText? category)),
      ("limit", .value (.int limit))]
  | relatedEntities entity maxHops limit =>
    [("entity_id", .value (.str entity)), ("max_hops", .value (.int maxHops)),
      ("limit", .value (.int limit))]
  | documentsForEntity entity limit =>
    [("entity_id", .value (.str entity)), ("limit", .value (.int limit))]
  | entitiesInDocument document => [("document_id", .value (.str document))]
  | frequentPairs minimum limit =>
    [("min_occurrences", .value (.int minimum)), ("limit", .value (.int limit))]
  | commonConnections seeds limit =>
    [("seed_ids", .value (.list (seeds.map .str))), ("limit", .value (.int limit))]
  | nothing => []
  | loose _ given => given

/-- The value of an argument; null when it is missing or a query tree. -/
def plainArgument (given : NamedArguments) (name : String) : Value :=
  match given.lookup name with
  | some (.value v) => v
  | _ => .null

/-- The vertex or, failing that, the label that an operation is about. -/
def subject (op : Operation) : Value :=
  let id := plainArgument op.arguments "vertex_id"
  if id.isEmptyLike then plainArgument op.arguments "label" else id

end Operation

/-- A script with bindings, together with the operation that it encodes. -/
structure Traversal where
  script : String
  bindings : Fields
  operation : Operation
  deriving Repr, Inhabited

namespace Traversal

/-- Whether a traversal is known to return no rows. -/
def isEmpty (t : Traversal) : Bool := t.operation.step.text? == some "empty"

/-- The traversal that returns no rows on any engine. -/
def empty : Traversal := ⟨"g.V().limit(0)", [], .nothing⟩

end Traversal

end EntityGraph
