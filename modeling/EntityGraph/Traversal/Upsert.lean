import EntityGraph.Traversal.Basic
import EntityGraph.Traversal.Literal
/-!
Conditional creation of vertices and edges.

An upsert creates what is absent and leaves what is there untouched. Ids, keys and values travel as
bindings; only the label stands in the script.

* `present`: properties without null values, which are never written.
* `propertySteps`, `propertyBindings`: the script and the bindings of a list of properties, numbered
  from 0.
* `upsertVertex`, `upsertEdge`: the two traversals.
* `Loose.upsertVertex`, `Loose.upsertEdge`: the same with ids of any kind.
-/

namespace EntityGraph.Traversal

/-- The properties that are written: those whose value is not null. -/
def present (properties : Fields) : Fields :=
  properties.filter fun (_, v) => match v with | .null => false | _ => true

/-- The script of `n` properties, the first one numbered `i`. -/
def propertySteps : (i n : Nat) → String
  | _, 0 => ""
  | i, n + 1 =>
    ".property(pk" ++ toString i ++ ", pv" ++ toString i ++ ")" ++ propertySteps (i + 1) n

/-- The bindings of a list of properties, the first one numbered `i`. -/
def propertyBindings : Nat → Fields → Fields
  | _, [] => []
  | i, (k, v) :: rest =>
    ("pk" ++ toString i, .str k) :: ("pv" ++ toString i, v) :: propertyBindings (i + 1) rest

namespace Loose

/-- Create a vertex with an id of any kind. -/
def upsertVertex (id : Value) (label : String) (properties : Fields) : Traversal :=
  let written := present properties
  { script := "g.V(vid).fold().coalesce(unfold(), addV(" ++ quoteLiteral label
      ++ ").property(id, vid)" ++ propertySteps 0 written.length ++ ")"
    bindings := ("vid", id) :: propertyBindings 0 written
    operation := .loose (.str "upsert_vertex")
      [("vertex_id", .value id), ("label", .value (.str label)),
        ("properties", .value (.object written))] }

/-- Create an edge between ends of any kind. -/
def upsertEdge (label : String) (source target : Value) (properties : Fields) : Traversal :=
  let written := present properties
  let name := quoteLiteral label
  { script := "g.V(outId).as('o').V(inId).coalesce(__.inE(" ++ name
      ++ ").where(__.outV().as('o')), __.addE(" ++ name ++ ").from('o')"
      ++ propertySteps 0 written.length ++ ")"
    bindings := ("outId", source) :: ("inId", target) :: propertyBindings 0 written
    operation := .loose (.str "upsert_edge")
      [("label", .value (.str label)), ("out_id", .value source), ("in_id", .value target),
        ("properties", .value (.object written))] }

end Loose

/-- Create a vertex if there is none with its id, and return it either way. -/
def upsertVertex (id label : String) (properties : Fields) : Traversal :=
  { Loose.upsertVertex (.str id) label properties with
    operation := .upsertVertex id label (present properties) }

/-- Create an edge from `source` to `target` if there is none with its label, and return it either
way. -/
def upsertEdge (label source target : String) (properties : Fields) : Traversal :=
  { Loose.upsertEdge label (.str source) (.str target) properties with
    operation := .upsertEdge label source target (present properties) }

end EntityGraph.Traversal
