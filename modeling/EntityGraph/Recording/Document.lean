import EntityGraph.Recording.Write
import EntityGraph.Settings.Basic
/-!
Recording a document.

* `Policy`: the least confidence of an entity that is recorded, and whether relationships that say
  no more than "found together" are written.
* `record`: the vertex of the document, then each distinct entity with its appearance, then the
  relationship of every pair. A failed entity does not stop the others, but it does stop the
  relationships; a failed relationship does not stop the others.
-/

namespace EntityGraph.Recording

/-- What is recorded of a document. -/
structure Policy where
  threshold : Float := 0.7
  persistGeneric : Bool := false
  deriving Repr, Inhabited

/-- The policy that the settings ask for. -/
def Policy.ofSettings (s : Settings) : Policy := ⟨s.confidenceThreshold, s.persistCoOccurs⟩

/-- A policy, provided that the number of writes at a time is a positive integer. -/
def Policy.checked (p : Policy) (writesAtATime : Value) : Except RequestError Policy := do
  discard <| positive "write_concurrency" writesAtATime
  return p

/-- The logger of recordings. -/
def recorderLog : String := "podgraph.pipeline.recorder"

/-- Write an entity and, when that has succeeded, its appearance. -/
def writeMention (document : String) (e : Entity) : Action Unit := do
  let id ← writeEntity e
  writeAppearance e id document

/-- What recording a document says at its end. Time is not measured. -/
def summary (d : Document) (persisted pairs : Nat) : String :=
  "Recorded document " ++ d.id ++ ": " ++ toString persisted ++ "/"
    ++ toString d.entities.length ++ " entities persisted, " ++ toString pairs ++ " pairs in 0.00s"

/-- All writes of a document, in the context that is there. -/
def recordAll (p : Policy) (d : Document) : Action Recorded := do
  let persisted := Entity.confident p.threshold d.entities
  let distinct := Entity.distinct persisted
  let pairs := Entity.pairs distinct
  writeDocument d.id d.metadata.toFields
  Action.settle (distinct.map (writeMention d.id))
  Action.settle (pairs.map fun (a, b) => discard (writeRelationship p.persistGeneric a b d.id))
  Action.log .info recorderLog (summary d persisted.length pairs.length)
  return ⟨d.id, persisted, pairs.length⟩

/-- Record a document. -/
def record (p : Policy) (d : Document) : Action Recorded :=
  Action.within d.id none (Action.during "record_document" (recordAll p d))

end EntityGraph.Recording
