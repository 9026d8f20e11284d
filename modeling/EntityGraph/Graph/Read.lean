import EntityGraph.Graph.Basic
import EntityGraph.Query.Draft
import EntityGraph.Value.Order
/-!
Reading the graph.

* `incoming`, `outgoing`: the edges at a vertex, grouped by the vertex at their other end.
* `matchDocuments`: the first documents that satisfy a query.
* `entitiesByCategory`, `entitiesByText`: entities by their properties.
* `rings`, `relatedEntities`: entities by their distance from a given vertex, edges being followed
  in both directions.
* `documentsForEntity`, `entitiesInDocument`: the two sides of appearance.
* `frequentPairs`: pairs of texts that share documents.
* `commonConnections`: entities joined to every one of some vertices.

Each read with a limit is the first part of one without (`related`, `documentsOf`, `pairCounts`,
`connections`).
-/

namespace EntityGraph

/-- The first rows. A negative limit leaves out that many rows at the end. -/
def limited {α : Type} (limit : Int) (rows : List α) : List α :=
  if 0 ≤ limit then rows.take limit.toNat else rows.take (rows.length - limit.natAbs)

/-- Two properties were to be compared that have no order, or a text was looked for in a number. -/
structure Mismatch where
  deriving Repr, DecidableEq

namespace Graph

variable (g : Graph)

/-- The vertices of one label, in order. -/
def labelled (label : String) : List Vertex := g.vertices.filter fun v => v.hasLabel label

/-- Edges gathered by a key, in the order in which the keys come up first. -/
def groupedBy (key : Edge → String) (edges : List Edge) : List Edge :=
  (edges.map key).eraseDups.flatMap fun k => edges.filter fun e => key e == k

/-- The edges that lead to a vertex, grouped by source. -/
def incoming (id : String) : List Edge :=
  groupedBy Edge.source (g.edges.filter fun e => e.target == id)

/-- The edges that leave a vertex, grouped by target. -/
def outgoing (id : String) : List Edge :=
  groupedBy Edge.target (g.edges.filter fun e => e.source == id)

/-- The appearances in a document, each with the vertex that appears. -/
def appearances (document : String) : List (Edge × Vertex) :=
  ((g.incoming document).filter Edge.isAppearance).filterMap fun e =>
    (g.vertex? e.source).map fun v => (e, v)

/-- The entities that appear in a document. -/
def appearing (document : String) : List Vertex :=
  ((g.appearances document).map Prod.snd).filter Vertex.isEntity

/-! ### Documents by query -/

/-- Whether some entity of a document has the value of a term in its field. -/
def satisfies (document : String) (asked : Asked) : Bool :=
  (g.appearing document).any fun v => v.holds asked.1 asked.2

/-- The first matches among some documents. The search ends with the match that fills the limit;
only the first match is certain to be returned whatever the limit is. -/
def firstMatches (query : Draft) : Int → List Vertex → Except ForeignNode (List Vertex)
  | _, [] => .ok []
  | limit, d :: rest => do
    if ← query.holds (g.satisfies d.id) then
      if limit ≤ 1 then return [d] else return d :: (← firstMatches query (limit - 1) rest)
    else firstMatches query limit rest

/-- The first documents that satisfy a query. -/
def matchDocuments (query : Draft) (limit : Int) : Except ForeignNode (List Vertex) :=
  g.firstMatches query limit (g.labelled documentLabel)

/-! ### Entities by properties -/

/-- The first entities of a category and, when given, of a subcategory. -/
def entitiesByCategory (category : String) (subCategory : Option String) (limit : Int) :
    List Vertex :=
  limited limit <| (g.labelled entityLabel).filter fun v =>
    v.hasText "category" category && subCategory.all (v.hasText "subCategory")

/-- Whether a run of characters occurs in another. -/
def occursIn (pattern : List Char) : List Char → Bool
  | [] => pattern.isEmpty
  | c :: rest => pattern.isPrefixOf (c :: rest) || occursIn pattern rest

/-- Whether a value contains another one: a text by its characters, a list by its items, an object
by its keys. An absent value is taken for the empty text. -/
def contains (pattern v : Value) : Except Mismatch Bool :=
  match (if v.isEmptyLike then .str "" else v), pattern with
  | .str s, .str p => .ok (occursIn p.toList s.toList)
  | .list items, _ => .ok (items.any fun item => item.same pattern)
  | .object fields, .str p => .ok (fields.any fun (k, _) => k == p)
  | .object _, p => if p.isKey then .ok false else .error ⟨⟩
  | _, _ => .error ⟨⟩

/-- The first entities whose text contains a pattern and, when given, of a category. -/
def entitiesByText (pattern : String) (category : Option String) (limit : Int) :
    Except Mismatch (List Vertex) := do
  let eligible := (g.labelled entityLabel).filter fun v => category.all (v.hasText "category")
  let found ← eligible.filterM fun v => contains (.str pattern) (v.property "text")
  return limited limit found

/-! ### Entities by distance -/

/-- The other ends of the edges at a vertex. -/
def neighbours (id : String) : List String :=
  (g.edges.filter fun e => e.source == id).map Edge.target
    ++ (g.edges.filter fun e => e.target == id).map Edge.source

/-- The vertices at distance 1, 2, … from the last ring, as far as there are any, leaving out those
already seen. -/
def rings : Nat → List String → List String → List (List String)
  | 0, _, _ => []
  | hops + 1, last, seen =>
    let next := (last.flatMap g.neighbours).eraseDups.filter fun id => !seen.contains id
    if next.isEmpty then [] else next :: rings hops next (seen ++ next)

/-- Texts in the order of their code points. -/
def sorted (texts : List String) : List String := texts.mergeSort fun a b => decide (a ≤ b)

/-- The entities within a number of edges of a vertex, by distance and then by id. -/
def related (id : String) (hops : Nat) : List Vertex :=
  if g.hasVertex id then
    (((g.rings hops [id] [id]).flatMap sorted).filterMap g.vertex?).filter Vertex.isEntity
  else []

/-- The first entities within a number of edges of a vertex. -/
def relatedEntities (id : String) (maxHops limit : Int) : List Vertex :=
  limited limit (g.related id maxHops.toNat)

/-! ### Appearance -/

/-- The documents in which a vertex appears. -/
def documentsOf (id : String) : List Vertex :=
  if g.hasVertex id then
    ((g.outgoing id).filter Edge.isAppearance).filterMap fun e => g.vertex? e.target
  else []

/-- The first documents in which a vertex appears. -/
def documentsForEntity (id : String) (limit : Int) : List Vertex :=
  limited limit (g.documentsOf id)

/-- What appears in a document, with the edges that say so. -/
def entitiesInDocument (id : String) : List (Edge × Vertex) :=
  if (g.vertex? id).any Vertex.isDocument then g.appearances id else []

/-! ### Pairs -/

/-- The distinct texts of what appears in a document, in order. A text may be any value that can be
a key, as long as all of them have an order. -/
def textsIn (document : String) : Except Mismatch (List Value) :=
  let values := (g.appearances document).map fun (_, v) => v.property "text"
  if values.all Value.isKey then
    match Value.sortedBy? id (values.eraseDupsBy Value.same) with
    | some texts => .ok texts
    | none => .error ⟨⟩
  else .error ⟨⟩

/-- Two texts that share documents. -/
abbrev TextPair := Value × Value

/-- Whether two pairs are the same. -/
def samePair (p q : TextPair) : Bool := p.1.same q.1 && p.2.same q.2

/-- The pairs of a list, in the order of their positions. -/
def pairsOf : List Value → List TextPair
  | [] => []
  | a :: rest => rest.map (a, ·) ++ pairsOf rest

/-- The pairs of texts that share documents, with the number of these. -/
def sharedPairs : Except Mismatch (List (TextPair × Nat)) := do
  let texts ← (g.labelled documentLabel).mapM fun d => g.textsIn d.id
  let shared := texts.flatMap pairsOf
  return (shared.eraseDupsBy samePair).map fun p => (p, shared.countP (samePair p))

/-- The place of a pair among others: more frequent pairs come first, and pairs of one count are in
the order of their texts. -/
def pairKey (p : TextPair × Nat) : Value :=
  .list [.int (-(p.2 : Int)), .list [p.1.1, p.1.2]]

/-- The pairs of texts that share at least `minimum` documents, in order. -/
def pairCounts (minimum : Int) : Except Mismatch (List (TextPair × Nat)) := do
  let counted ← g.sharedPairs
  match Value.sortedBy? pairKey (counted.filter fun (_, n) => minimum ≤ (n : Int)) with
  | some ranked => return ranked
  | none => throw ⟨⟩

/-- The most frequent pairs of texts that share at least `minimum` documents. -/
def frequentPairs (minimum limit : Int) : Except Mismatch (List (TextPair × Nat)) :=
  (g.pairCounts minimum).map (limited limit)

/-! ### Connections -/

/-- The key by which connections are ordered: the text, or the id when there is none. -/
def orderKey (v : Vertex) : Value :=
  let text := v.property "text"
  if text.isEmptyLike then .str v.id else text

/-- The entities joined to every one of some distinct vertices, by their texts. -/
def connections (seeds : List String) : Except Mismatch (List Vertex) :=
  if seeds.isEmpty || !seeds.all g.hasVertex then .ok []
  else
    let common := g.vertices.filter fun v =>
      v.isEntity && !seeds.contains v.id && seeds.all fun s => (g.neighbours s).contains v.id
    match Value.sortedBy? orderKey common with
    | some ordered => .ok ordered
    | none => .error ⟨⟩

/-- The first entities joined to every one of some distinct vertices. -/
def commonConnections (seeds : List String) (limit : Int) : Except Mismatch (List Vertex) :=
  (g.connections seeds).map (limited limit)

end Graph

end EntityGraph
