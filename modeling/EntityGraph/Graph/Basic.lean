import EntityGraph.Relationship.Table
import EntityGraph.Value.Order
/-!
The graph of entities and documents.

Vertices and edges stand in the order of their creation, and nothing that is there ever changes: a
write either adds at the end or adds nothing.

* `Vertex`, `Edge`, `Graph`: an edge is known by its label and its two end points, and carries the
  number of its creation.
* `Graph.upsertVertex`, `Graph.upsertEdge`: create what is absent.
* `Vertex.row`, `Edge.row`: how vertices and edges are returned. Properties of a vertex come as
  lists of one value, those of an edge as they are.
-/

namespace EntityGraph

/-- The label of entity vertices. -/
def entityLabel : String := "entity"

/-- The label of document vertices. -/
def documentLabel : String := "document"

/-- A vertex with its properties. -/
structure Vertex where
  id : String
  /-- Usually a text, which says what the vertex stands for. -/
  label : Value
  properties : Fields
  deriving Repr, Inhabited

/-- A labelled edge between two vertices. -/
structure Edge where
  /-- The number of the edge in the order of creation, from 1. -/
  number : Nat
  label : String
  source : String
  target : String
  properties : Fields
  deriving Repr, Inhabited

/-- What a read of the graph returns one at a time. -/
abbrev Row := Fields

namespace Vertex

/-- The value of a property, null when it is missing. -/
def property (v : Vertex) (name : String) : Value := v.properties.getD name

/-- Whether a property is a given text. -/
def hasText (v : Vertex) (name text : String) : Bool := (v.property name).text? == some text

/-- Whether the property that a value names is a given value. What is no text names no property. -/
def holds (v : Vertex) (name x : Value) : Bool :=
  match name with
  | .str name => (v.property name).same x
  | _ => Value.null.same x

/-- Whether a vertex has a given label. -/
def hasLabel (v : Vertex) (label : String) : Bool := v.label.text? == some label

/-- Whether a vertex stands for an entity. -/
def isEntity (v : Vertex) : Bool := v.hasLabel entityLabel

/-- Whether a vertex stands for a document. -/
def isDocument (v : Vertex) : Bool := v.hasLabel documentLabel

/-- For texts, to hold a value is to have a text. -/
@[simp] theorem holds_str (v : Vertex) (name text : String) :
    v.holds (.str name) (.str text) = v.hasText name text :=
  Value.same_str_right (v.property name) text

/-- A vertex as it is returned: id and label, then every property as a list of one value. -/
def row (v : Vertex) : Row :=
  Fields.setAll [("id", .str v.id), ("label", v.label)]
    (v.properties.map fun (k, x) => (k, .list [x]))

end Vertex

namespace Edge

/-- The identity of an edge. -/
def id (e : Edge) : String := "edge-" ++ toString e.number

/-- Whether an edge has a given label and given end points. -/
def joins (e : Edge) (label source target : String) : Bool :=
  e.label == label && e.source == source && e.target == target

/-- Whether an edge says that its source appears in its target. -/
def isAppearance (e : Edge) : Bool := e.label == Relationship.appearsIn

/-- An edge as it is returned: id and label, then the properties. -/
def row (e : Edge) : Row :=
  Fields.setAll [("id", .str e.id), ("label", .str e.label)] e.properties

end Edge

/-- Vertices and edges in the order of their creation. -/
structure Graph where
  vertices : List Vertex
  edges : List Edge
  deriving Repr, Inhabited

namespace Graph

/-- The graph without vertices. -/
def empty : Graph := ⟨[], []⟩

/-- The vertex with a given id. -/
def vertex? (g : Graph) (id : String) : Option Vertex := g.vertices.find? fun v => v.id == id

/-- Whether there is a vertex with a given id. -/
def hasVertex (g : Graph) (id : String) : Bool := (g.vertex? id).isSome

/-- The edge with a given label and given end points. -/
def edge? (g : Graph) (label source target : String) : Option Edge :=
  g.edges.find? fun e => e.joins label source target

/-- Create a vertex unless its id is taken. -/
def upsertVertex (g : Graph) (id : String) (label : Value) (properties : Fields) : Graph :=
  if g.hasVertex id then g else { g with vertices := g.vertices ++ [⟨id, label, properties⟩] }

/-- Create an edge between two vertices of the graph unless it is there. -/
def upsertEdge (g : Graph) (label source target : String) (properties : Fields) : Graph :=
  if !(g.hasVertex source && g.hasVertex target) || (g.edge? label source target).isSome then g
  else { g with edges := g.edges ++ [⟨g.edges.length + 1, label, source, target, properties⟩] }

/-- The number of edges with one label; null stands for all labels. -/
def edgeCount (g : Graph) (label : Value) : Nat :=
  match label with
  | .null => g.edges.length
  | v => (g.edges.filter fun e => v.text? == some e.label).length

/-- Writing a vertex changes no edge. -/
@[simp] theorem edges_upsertVertex (g : Graph) (id : String) (label : Value)
    (properties : Fields) :
    (g.upsertVertex id label properties).edges = g.edges := by
  unfold upsertVertex
  split <;> rfl

/-- Writing an edge changes no vertex. -/
@[simp] theorem vertices_upsertEdge (g : Graph) (label source target : String)
    (properties : Fields) :
    (g.upsertEdge label source target properties).vertices = g.vertices := by
  unfold upsertEdge
  split <;> rfl

end Graph

end EntityGraph
