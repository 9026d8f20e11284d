import EntityGraph.Digest.Sha256
import EntityGraph.Text.Case
/-!
Entities as documents mention them, and the identity that joins mentions.

* `Mention`: a text with the name of its category.
* `Entity`: a mention with all that recognition says about it.
* `vertexId`: the identity of an entity in the graph. It depends on the lower-cased text alone, so
  mentions that differ in letter case or category are one entity.
* `partitionKey`: the key by which entities of a category are stored together.
* `Entity.distinct`: the first mention of each entity in a list.
* `Entity.confident`: the mentions whose confidence reaches a threshold.
-/

namespace EntityGraph

/-- A text that was recognized, with the name of its category. -/
structure Mention where
  text : String
  category : String
  deriving DecidableEq, Repr, Inhabited

/-- One recognized span of a document. -/
structure Entity extends Mention where
  subCategory : Option String
  confidence : Float
  offset : Option Int
  length : Option Int
  deriving Repr, Inhabited

/-- The identity of the entity that a text names. -/
def vertexId (text : String) : String :=
  "ent-" ++ Digest.sha256Hex (Text.lower text).toUTF8.toList

/-- The key by which entities of a category are stored together. -/
def partitionKey (category : String) : String := Text.lower category

namespace Mention

/-- The identity of the entity mentioned. -/
def id (m : Mention) : String := vertexId m.text

end Mention

namespace Entity

/-- The most specific classification: the subcategory unless it is missing or empty. -/
def kind (e : Entity) : String :=
  match e.subCategory with
  | some s => if s.isEmpty then e.category else s
  | none => e.category

/-- The mentions whose confidence reaches the threshold. -/
def confident (threshold : Float) (es : List Entity) : List Entity :=
  es.filter fun e => threshold ≤ e.confidence

/-- The first mention of each entity that is not among those seen. -/
def distinctFrom (seen : List String) : List Entity → List Entity
  | [] => []
  | e :: rest =>
    if e.id ∈ seen then distinctFrom seen rest else e :: distinctFrom (e.id :: seen) rest

/-- The first mention of each entity. -/
def distinct (es : List Entity) : List Entity := distinctFrom [] es

/-- The pairs of a list, in the order of their positions. -/
def pairs : List Entity → List (Entity × Entity)
  | [] => []
  | e :: rest => rest.map (e, ·) ++ pairs rest

end Entity

end EntityGraph
