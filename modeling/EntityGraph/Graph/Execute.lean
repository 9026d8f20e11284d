import EntityGraph.Graph.Steps
/-!
Carrying out operations on a graph.

* `Graph.execute`: the graph after an operation and the rows it returns, or why it cannot be carried
  out. Only writes change the graph, which `Graph.apply` says for all operations but the loose ones.
-/

namespace EntityGraph.Graph

/-- What an operation does to a graph. -/
def apply (g : Graph) : Operation → Graph
  | .upsertVertex id label properties => g.upsertVertex id (.str label) properties
  | .upsertEdge label source target properties => g.upsertEdge label source target properties
  | _ => g

/-- What an operation returns, on the graph that it has been applied to. -/
def answer (g : Graph) : Operation → Except GraphError (List Row)
  | .upsertVertex id _ _ => .ok (vertexRows (g.vertex? id).toList)
  | .upsertEdge label source target _ => .ok ((g.edge? label source target).toList.map Edge.row)
  | .matchDocuments query limit =>
    ((g.matchDocuments query limit).mapError .foreign).map vertexRows
  | .entitiesByCategory category subCategory limit =>
    .ok (vertexRows (g.entitiesByCategory category subCategory limit))
  | .entitiesByText pattern category limit =>
    (fitting (g.entitiesByText pattern category limit)).map vertexRows
  | .relatedEntities id maxHops limit => .ok (vertexRows (g.relatedEntities id maxHops limit))
  | .documentsForEntity id limit => .ok (vertexRows (g.documentsForEntity id limit))
  | .entitiesInDocument id => .ok ((g.entitiesInDocument id).map appearanceRow)
  | .frequentPairs minimum limit => (fitting (g.frequentPairs minimum limit)).map (·.map pairRow)
  | .commonConnections seeds limit =>
    (fitting (g.commonConnections seeds.eraseDups limit)).map vertexRows
  | .nothing => .ok []
  | .loose step given => (g.carryOut step given).map Prod.snd

/-- Carry out an operation: the graph afterwards and the rows returned. -/
def execute (g : Graph) (op : Operation) : Except GraphError (Graph × List Row) :=
  match op with
  | .loose step given => g.carryOut step given
  | op =>
    let after := g.apply op
    (after.answer op).map fun rows => (after, rows)

end EntityGraph.Graph
