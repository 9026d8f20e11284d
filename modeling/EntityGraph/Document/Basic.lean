import EntityGraph.Entity.Basic
import EntityGraph.Value.Basic
/-!
Documents on their way into the graph, and what is reported about them.

* `RawDocument`: a document before recognition, as a list of texts.
* `Recognition`: what recognition says about one text: its entities or an error.
* `Document`: a document with its entities, ready to be recorded.
* `Recorded`: what was written for one document.
* `BatchOutcome`: the fate of every document of a batch.
-/

namespace EntityGraph

/-- Texts attached to a document, by name, in order. -/
abbrev Metadata := List (String × String)

/-- Metadata as the fields of an object. -/
def Metadata.toFields (m : Metadata) : Fields := m.map fun (k, s) => (k, .str s)

/-- A document before recognition. -/
structure RawDocument where
  id : String
  texts : List String
  metadata : Metadata
  deriving DecidableEq, Repr, Inhabited

/-- What recognition says about one text. -/
structure Recognition where
  index : Int
  entities : List Entity
  error : Option String
  deriving Repr, Inhabited

/-- Whether recognition failed for the text. -/
def Recognition.isError (r : Recognition) : Bool := r.error.isSome

/-- A document with its entities. -/
structure Document where
  id : String
  metadata : Metadata
  entities : List Entity
  deriving Repr, Inhabited

/-- What was written for one document. -/
structure Recorded where
  document : String
  /-- The entities that are confident enough. -/
  persisted : List Entity
  /-- The number of pairs of distinct entities. -/
  pairs : Int
  deriving Repr, Inhabited

/-- The fate of the documents of a batch. -/
structure BatchOutcome where
  recorded : List Recorded
  skipped : List String
  failed : List String
  deriving Repr, Inhabited

end EntityGraph
