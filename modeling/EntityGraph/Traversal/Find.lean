import EntityGraph.Traversal.Basic
/-!
The traversals of structured searches. All values that callers give travel as bindings.

* `entitiesByCategory`, `entitiesByText`, `relatedEntities`, `documentsForEntity`,
  `entitiesInDocument`, `frequentPairs`, `commonConnections`: one traversal for each read of the
  graph that is not a keyword query.
* `Loose`: the same with arguments of any kind. Script and bindings are made here, and the arguments
  are passed on as they are.
-/

namespace EntityGraph.Traversal

namespace Loose

/-- A step with plain arguments. -/
def step (name : String) (arguments : Fields) : Operation :=
  .loose (.str name) (arguments.map fun (k, v) => (k, .value v))

/-- A part of a script, or a binding, that is left out for null. -/
def unlessNull {α : Type} (v : Value) (x : List α) : List α :=
  match v with
  | .null => []
  | _ => x

/-- Entities of a category and, unless it is null, of a subcategory. -/
def entitiesByCategory (category subCategory limit : Value) : Traversal :=
  { script := "g.V().hasLabel('entity').has('category', cat)"
      ++ "".intercalate (unlessNull subCategory [".has('subCategory', sub)"])
      ++ ".limit(lim).valueMap(true)"
    bindings := [("cat", category), ("lim", limit)]
      ++ unlessNull subCategory [("sub", subCategory)]
    operation := step "entities_by_category"
      [("category", category), ("sub_category", subCategory), ("limit", limit)] }

/-- Entities whose text contains a pattern and, unless it is null, of a category. -/
def entitiesByText (pattern category limit : Value) : Traversal :=
  { script := "g.V().hasLabel('entity')"
      ++ "".intercalate (unlessNull category [".has('category', cat)"])
      ++ ".has('text', containing(pattern)).limit(lim).valueMap(true)"
    bindings := [("pattern", pattern), ("lim", limit)] ++ unlessNull category [("cat", category)]
    operation := step "entities_by_text"
      [("pattern", pattern), ("category", category), ("limit", limit)] }

/-- Entities within a number of edges of a given one, in any direction. -/
def relatedEntities (entity maxHops limit : Value) : Traversal :=
  { script := "g.V(eid).repeat(__.both().simplePath()).emit().times(hops)"
      ++ ".hasLabel('entity').dedup().limit(lim).valueMap(true)"
    bindings := [("eid", entity), ("hops", maxHops), ("lim", limit)]
    operation := step "related_entities"
      [("entity_id", entity), ("max_hops", maxHops), ("limit", limit)] }

/-- Documents in which an entity appears. -/
def documentsForEntity (entity limit : Value) : Traversal :=
  { script := "g.V(eid).out('appears_in').hasLabel('document').dedup().limit(lim).valueMap(true)"
    bindings := [("eid", entity), ("lim", limit)]
    operation := step "documents_for_entity" [("entity_id", entity), ("limit", limit)] }

/-- Entities that appear in a document, each with the edge that says so. -/
def entitiesInDocument (document : Value) : Traversal :=
  { script := "g.V(docId).hasLabel('document').inE('appears_in').project('context', 'entity')"
      ++ ".by(valueMap(true)).by(outV().valueMap(true))"
    bindings := [("docId", document)]
    operation := step "entities_in_document" [("document_id", document)] }

/-- Pairs of entities that share at least a number of documents, most frequent first. -/
def frequentPairs (minimum limit : Value) : Traversal :=
  { script := "g.V().hasLabel('entity').as('a').out('appears_in').in('appears_in')"
      ++ ".hasLabel('entity').where(gt('a')).by('text').as('b').select('a', 'b').by('text')"
      ++ ".groupCount().unfold().where(select(values).is(gte(minCount)))"
      ++ ".order().by(values, decr).by(select(keys).select('a')).by(select(keys).select('b'))"
      ++ ".limit(lim).project('pair', 'coOccurrences').by(select(keys)).by(select(values))"
    bindings := [("minCount", minimum), ("lim", limit)]
    operation := step "frequent_co_occurrences" [("min_occurrences", minimum), ("limit", limit)] }

/-- Entities joined to every one of `count` given seeds. -/
def commonConnections (seeds : Value) (count : Nat) (limit : Value) : Traversal :=
  { script := "g.V(seedIds).both().hasLabel('entity').not(__.hasId(within(seedIds))).dedup()"
      ++ ".where(__.both().hasId(within(seedIds)).dedup().count().is(eq(seedCount)))"
      ++ ".limit(lim).valueMap(true)"
    bindings := [("seedIds", seeds), ("seedCount", .int count), ("lim", limit)]
    operation := step "common_connections" [("seed_ids", seeds), ("limit", limit)] }

end Loose

/-- Entities of a category and, when given, of a subcategory. -/
def entitiesByCategory (category : String) (subCategory : Option String) (limit : Int) :
    Traversal :=
  { Loose.entitiesByCategory (.str category) (.ofText? subCategory) (.int limit) with
    operation := .entitiesByCategory category subCategory limit }

/-- Entities whose text contains a pattern and, when given, of a category. -/
def entitiesByText (pattern : String) (category : Option String) (limit : Int) : Traversal :=
  { Loose.entitiesByText (.str pattern) (.ofText? category) (.int limit) with
    operation := .entitiesByText pattern category limit }

/-- Entities within a number of edges of a given one, in any direction. -/
def relatedEntities (entity : String) (maxHops limit : Int) : Traversal :=
  { Loose.relatedEntities (.str entity) (.int maxHops) (.int limit) with
    operation := .relatedEntities entity maxHops limit }

/-- Documents in which an entity appears. -/
def documentsForEntity (entity : String) (limit : Int) : Traversal :=
  { Loose.documentsForEntity (.str entity) (.int limit) with
    operation := .documentsForEntity entity limit }

/-- Entities that appear in a document, each with the edge that says so. -/
def entitiesInDocument (document : String) : Traversal :=
  { Loose.entitiesInDocument (.str document) with operation := .entitiesInDocument document }

/-- Pairs of entities that share at least a number of documents, most frequent first. -/
def frequentPairs (minimum limit : Int) : Traversal :=
  { Loose.frequentPairs (.int minimum) (.int limit) with
    operation := .frequentPairs minimum limit }

/-- Entities joined to every one of the given entities. -/
def commonConnections (seeds : List String) (limit : Int) : Traversal :=
  { Loose.commonConnections (.list (seeds.map .str)) seeds.length (.int limit) with
    operation := .commonConnections seeds limit }

end EntityGraph.Traversal
