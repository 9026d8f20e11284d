import EntityGraph.Graph.Read
import EntityGraph.Traversal.Basic
import EntityGraph.Value.Entries
/-!
Steps by name, with arguments of any kind.

A step takes exactly the arguments that it knows. What they have to be is found out only when they
are needed: a limit that is no number does no harm as long as nothing is limited by it.

* `GraphError`: why a graph does not carry out an operation.
* `firstOf`: the first rows by a limit of any kind.
* `Graph.carryOut`: the graph after a step and the rows that it returns.
-/

namespace EntityGraph

/-- Why a graph does not carry out an operation. -/
inductive GraphError where
  | unknownStep (step : Value)
  | foreign (node : ForeignNode)
  /-- The arguments do not fit. -/
  | mismatch
  /-- Null cannot be the id of a vertex. -/
  | nullVertex
  /-- The properties are none. -/
  | properties (e : EntriesError)
  deriving Repr

/-! ### Limits -/

/-- The first rows by a limit of any kind: null stands for all rows. -/
def firstOf {α : Type} (limit : Value) (rows : List α) : Except GraphError (List α) :=
  match limit with
  | .null => .ok rows
  | .int n => .ok (limited n rows)
  | .bool b => .ok (limited (if b then 1 else 0) rows)
  | _ => .error .mismatch

/-- The least count that is not below a number, and a count above `most` when there is none. -/
def countFrom (most : Nat) (v : Value) : Option Int :=
  v.quantity?.map fun q => match q with
    | .minusInfinity => 0
    | .infinity | .undefined => (most : Int) + 1
    | q => q.ceiling?.getD 0

/-- The number of rounds that are below a number; null stands for as many as there are. -/
def roundsBelow (most : Nat) : Value → Option Int
  | .null => some most
  | v => if v.quantity? = some .undefined then some 0 else countFrom most v

namespace Graph

variable (g : Graph)

/-- A row with the two texts of a pair and the number of documents they share. -/
def pairRow (p : TextPair × Nat) : Row :=
  [("pair", .object [("a", p.1.1), ("b", p.1.2)]), ("coOccurrences", .int p.2)]

/-- A row with an appearance and the vertex that appears. -/
def appearanceRow (p : Edge × Vertex) : Row :=
  [("context", .object p.1.row), ("entity", .object p.2.row)]

/-- The rows of vertices. -/
def vertexRows (vertices : List Vertex) : List Row := vertices.map Vertex.row

/-- The properties that a value describes. -/
def propertiesOf (v : Value) : Except GraphError Fields := v.toEntries.mapError .properties

/-- A read whose failure is that its arguments do not fit. -/
def fitting {α : Type} (read : Except Mismatch α) : Except GraphError α :=
  read.mapError fun _ => .mismatch

/-! ### Writes -/

/-- Create a vertex unless it is there. The properties are looked at only if it is not. -/
def putVertex (id label properties : Value) : Except GraphError (Graph × List Row) :=
  match id with
  | .str id =>
    if g.hasVertex id then .ok (g, vertexRows (g.vertex? id).toList)
    else do
      let after := g.upsertVertex id label (← propertiesOf properties)
      return (after, vertexRows (after.vertex? id).toList)
  | v => do
    discard <| propertiesOf properties
    .error (match v with | .null => .nullVertex | _ => .mismatch)

/-- Create an edge unless it is there. Without its end points there is nothing to do. -/
def putEdge (label source target properties : Value) : Except GraphError (Graph × List Row) :=
  match source, target with
  | .str source, .str target =>
    if g.hasVertex source && g.hasVertex target then
      match label with
      | .str label =>
        if (g.edge? label source target).isSome then
          .ok (g, (g.edge? label source target).toList.map Edge.row)
        else do
          let after := g.upsertEdge label source target (← propertiesOf properties)
          return (after, (after.edge? label source target).toList.map Edge.row)
      | _ => .error .mismatch
    else .ok (g, [])
  | _, _ => .ok (g, [])

/-! ### Reads -/

/-- Documents by a query. A limit that is no number matters when a document has been found. -/
def documentsBy (query : Draft) (limit : Value) : Except GraphError (List Vertex) :=
  match countFrom g.vertices.length limit with
  | some n => (g.matchDocuments query n).mapError .foreign
  | none => do
    let found ← (g.matchDocuments query 1).mapError .foreign
    if found.isEmpty then return [] else .error .mismatch

/-- Entities of a category and, unless it is null, of a subcategory. -/
def entitiesOf (category subCategory limit : Value) : Except GraphError (List Vertex) :=
  firstOf limit <| (g.labelled entityLabel).filter fun v =>
    (v.property "category").same category
      && (subCategory matches .null || (v.property "subCategory").same subCategory)

/-- Entities whose text contains a pattern and, unless it is null, of a category. -/
def entitiesWith (pattern category limit : Value) : Except GraphError (List Vertex) := do
  let eligible := (g.labelled entityLabel).filter fun v =>
    category matches .null || (v.property "category").same category
  let found ← fitting (eligible.filterM fun v => contains pattern (v.property "text"))
  firstOf limit found

/-- Entities within a number of edges. -/
def entitiesNear (entity maxHops limit : Value) : Except GraphError (List Vertex) :=
  match entity with
  | .str id =>
    if g.hasVertex id then
      match roundsBelow g.vertices.length maxHops with
      | some hops => firstOf limit (g.related id hops.toNat)
      | none => .error .mismatch
    else .ok []
  | _ => .ok []

/-- Documents in which a vertex appears. -/
def documentsWith (entity limit : Value) : Except GraphError (List Vertex) :=
  match entity with
  | .str id => if g.hasVertex id then firstOf limit (g.documentsOf id) else .ok []
  | _ => .ok []

/-- Pairs that share documents. The least count matters when there are any. -/
def pairsFrom (minimum limit : Value) : Except GraphError (List (TextPair × Nat)) := do
  let shared ← fitting g.sharedPairs
  match countFrom g.vertices.length minimum with
  | some n => firstOf limit (← fitting (g.pairCounts n))
  | none => if shared.isEmpty then firstOf limit [] else .error .mismatch

/-- The distinct seeds that a value lists: the items of a list, the keys of an object or the
characters of a text. -/
def seedsOf : Value → Except GraphError (List Value)
  | .list items =>
    if items.all Value.isKey then .ok (items.eraseDupsBy Value.same) else .error .mismatch
  | .object fields => .ok (fields.map fun (k, _) => .str k)
  | .str s => .ok ((Value.characters s).eraseDupsBy Value.same)
  | _ => .error .mismatch

/-- Entities joined to every one of some seeds, all of which have to be there. -/
def connectionsOf (seeds limit : Value) : Except GraphError (List Vertex) := do
  match (← seedsOf seeds).mapM Value.text? with
  | none => return []
  | some ids =>
    if ids.isEmpty || !ids.all g.hasVertex then return []
    else firstOf limit (← fitting (g.connections ids))

/-! ### Steps -/

/-- Whether exactly some arguments are given. -/
def isGiven (names : List String) (given : NamedArguments) : Bool :=
  given.length == names.length && names.all fun name => (given.lookup name).isSome

/-- The query among arguments. -/
def queryOf (given : NamedArguments) : Draft :=
  match given.lookup "query" with
  | some (.query d) => d
  | some (.value v) => .foreign v
  | none => .foreign .null

/-- A step of the graph: the names of its arguments, and what it does with them. -/
structure Step where
  names : List String
  run : NamedArguments → Except GraphError (Graph × List Row)

/-- A step that returns vertices and changes nothing. -/
def Step.vertices (names : List String)
    (read : NamedArguments → Except GraphError (List Vertex)) : Step :=
  ⟨names, fun given => (read given).map fun vs => (g, vertexRows vs)⟩

/-- The step with a given name. -/
def step? (name : String) : Option Step :=
  let arg := Operation.plainArgument
  match name with
  | "upsert_vertex" => some ⟨["vertex_id", "label", "properties"], fun a =>
      g.putVertex (arg a "vertex_id") (arg a "label") (arg a "properties")⟩
  | "upsert_edge" => some ⟨["label", "out_id", "in_id", "properties"], fun a =>
      g.putEdge (arg a "label") (arg a "out_id") (arg a "in_id") (arg a "properties")⟩
  | "match_documents" => some <| .vertices g ["query", "limit"] fun a =>
      g.documentsBy (queryOf a) (arg a "limit")
  | "entities_by_category" => some <| .vertices g ["category", "sub_category", "limit"] fun a =>
      g.entitiesOf (arg a "category") (arg a "sub_category") (arg a "limit")
  | "entities_by_text" => some <| .vertices g ["pattern", "category", "limit"] fun a =>
      g.entitiesWith (arg a "pattern") (arg a "category") (arg a "limit")
  | "related_entities" => some <| .vertices g ["entity_id", "max_hops", "limit"] fun a =>
      g.entitiesNear (arg a "entity_id") (arg a "max_hops") (arg a "limit")
  | "documents_for_entity" => some <| .vertices g ["entity_id", "limit"] fun a =>
      g.documentsWith (arg a "entity_id") (arg a "limit")
  | "entities_in_document" => some ⟨["document_id"], fun a =>
      match arg a "document_id" with
      | .str id => .ok (g, (g.entitiesInDocument id).map appearanceRow)
      | _ => .ok (g, [])⟩
  | "frequent_co_occurrences" => some ⟨["min_occurrences", "limit"], fun a =>
      (g.pairsFrom (arg a "min_occurrences") (arg a "limit")).map fun ps => (g, ps.map pairRow)⟩
  | "common_connections" => some <| .vertices g ["seed_ids", "limit"] fun a =>
      g.connectionsOf (arg a "seed_ids") (arg a "limit")
  | _ => none

/-- Carry out a step with arguments of any kind: the graph afterwards and the rows returned. -/
def carryOut (step : Value) (given : NamedArguments) : Except GraphError (Graph × List Row) :=
  if step.text? = some "empty" then .ok (g, [])
  else
    match step.text?.bind g.step? with
    | some s => if isGiven s.names given then s.run given else .error .mismatch
    | none =>
      if step.isKey || step.isEmptyLike then .error (.unknownStep step) else .error .mismatch

end Graph

end EntityGraph
