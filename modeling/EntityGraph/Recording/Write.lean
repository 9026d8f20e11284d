import EntityGraph.Relationship.Resolve
import EntityGraph.Session.Basic
import EntityGraph.Traversal.Upsert
/-!
The single writes from which the recording of a document is made.

* `writeDocument`: the vertex of a document with its metadata. Keys that the graph owns are left out
  of the metadata.
* `writeEntity`: the vertex of an entity; all mentions of an entity share it, and the first one
  gives it its properties.
* `writeAppearance`: the edge from an entity to a document.
* `writeRelationship`: the edge between two entities of a document, unless the two are one or merely
  occur together and such edges are not wanted.

Every write takes one reading of the clock, whether it changes the graph or not.
-/

namespace EntityGraph.Recording

/-- The logger of entity and document writes. -/
def writerLog : String := "podgraph.graph.canonicalizer"

/-- The logger of relationship writes. -/
def relationshipLog : String := "podgraph.graph.inferencer"

/-- The properties of a document that metadata cannot set. -/
def reservedKeys : List String := ["id", "label", "category", "partitionKey", "processedAt"]

/-- The metadata that becomes properties. -/
def allowedMetadata (metadata : Fields) : Fields :=
  metadata.filter fun (k, _) => !reservedKeys.contains k

/-- The properties of a document vertex. -/
def documentProperties (metadata : Fields) (time : String) : Fields :=
  allowedMetadata metadata
    ++ [("processedAt", .str time), ("category", .str documentLabel),
      ("partitionKey", .str documentLabel)]

/-- The properties of an entity vertex. -/
def entityProperties (e : Entity) (time : String) : Fields :=
  [("text", .str e.text), ("category", .str e.category), ("subCategory", .ofText? e.subCategory),
    ("type", .str e.kind), ("partitionKey", .str (partitionKey e.category)),
    ("createdAt", .str time)]

/-- The properties of an appearance. -/
def appearanceProperties (e : Entity) (time : String) : Fields :=
  [("confidenceScore", .float e.confidence), ("offset", .ofInt? e.offset),
    ("length", .ofInt? e.length), ("createdAt", .str time)]

/-- The properties of a relationship. -/
def relationshipProperties (document time : String) : Fields :=
  [("firstSeenIn", .str document), ("firstSeenAt", .str time)]

/-- Warn about metadata that is left out. -/
def warnReserved (document : String) : Fields → Action Unit
  | [] => pure ()
  | (k, _) :: rest => do
    if reservedKeys.contains k then
      Action.log .warning writerLog
        ("Ignoring reserved metadata key " ++ Text.quoted k ++ " on document " ++ document)
    warnReserved document rest

/-- Write the vertex of a document with metadata of any kind. -/
def writeDocument (document : String) (metadata : Fields) : Action Unit := do
  warnReserved document metadata
  let time ← Action.now
  discard <| Action.execute <|
    .upsertVertex document documentLabel (documentProperties metadata time)
  Action.log .debug writerLog ("Upserted document " ++ document)

/-- Write the vertex of an entity. -/
def writeEntity (e : Entity) : Action String := do
  let time ← Action.now
  discard <| Action.execute <| .upsertVertex e.id entityLabel (entityProperties e time)
  Action.log .debug writerLog ("Upserted entity " ++ Text.quoted e.text ++ " as " ++ e.id)
  return e.id

/-- Write the edge from an entity to a document. -/
def writeAppearance (e : Entity) (id document : String) : Action Unit := do
  let time ← Action.now
  discard <| Action.execute <|
    .upsertEdge Relationship.appearsIn id document (appearanceProperties e time)

/-- Write the relationship of two entities that were found in one document. -/
def writeRelationship (persistGeneric : Bool) (a b : Entity) (document : String) :
    Action (Option Relationship.Resolved) := do
  if a.id = b.id then return none
  let r := Relationship.resolve a.toMention b.toMention
  if r.isGeneric && !persistGeneric then
    Action.log .debug relationshipLog
      ("Skipping co_occurs between " ++ Text.quoted a.text ++ " and " ++ Text.quoted b.text)
    return none
  let time ← Action.now
  discard <| Action.execute <|
    .upsertEdge r.label r.source.id r.target.id (relationshipProperties document time)
  Action.log .debug relationshipLog
    ("Upserted " ++ r.label ++ ": " ++ Text.quoted r.source.text ++ " -> "
      ++ Text.quoted r.target.text)
  return some r

end EntityGraph.Recording
