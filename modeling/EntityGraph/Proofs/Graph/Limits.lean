import EntityGraph.Graph.Execute
import Mathlib.Tactic.Common
/-!
How many rows the graph returns.

* `Operation.limit?`, `Operation.hops?`: the numbers of rows and of hops that an operation asks for.
* `length_firstMatches_le`, `length_limited_le`: the two ways in which answers are cut short, during
  a search and after it.
* `length_le_of_execute`: no operation returns more rows than it asks for.
* `execute_of_isEmpty`: the empty traversal returns none.
-/

namespace EntityGraph

namespace Operation

/-- The number of rows that an operation asks for. -/
def limit? : Operation → Option Int
  | matchDocuments _ n | entitiesByCategory _ _ n | entitiesByText _ _ n | relatedEntities _ _ n
  | documentsForEntity _ n | frequentPairs _ n | commonConnections _ n => some n
  | upsertVertex .. | upsertEdge .. | entitiesInDocument _ | nothing | loose .. => none

/-- The number of hops that an operation asks for. -/
def hops? : Operation → Option Int
  | relatedEntities _ n _ => some n
  | _ => none

end Operation

/-- What is cut to a limit is not longer than the limit. -/
lemma length_limited_le {α : Type} {n : Int} (hn : 0 ≤ n) (xs : List α) :
    (limited n xs).length ≤ n := by
  rw [limited, if_pos hn, List.length_take]
  omega

namespace Graph

variable {g g' : Graph} {rows : List Row} {n : Int}

/-- A document is passed over, or it is the match that fills the limit, or the search goes on with
one match less to be found. -/
lemma firstMatches_cons_iff {query : Draft} {d : Vertex} {rest found : List Vertex} :
    g.firstMatches query n (d :: rest) = .ok found ↔
      (query.holds (g.satisfies d.id) = .ok false ∧ g.firstMatches query n rest = .ok found) ∨
      (query.holds (g.satisfies d.id) = .ok true ∧ n ≤ 1 ∧ found = [d]) ∨
      query.holds (g.satisfies d.id) = .ok true ∧ 1 < n ∧
        ∃ others, g.firstMatches query (n - 1) rest = .ok others ∧ found = d :: others := by
  rw [firstMatches]
  rcases query.holds (g.satisfies d.id) with e | _ | _
  · simp [bind, Except.bind]
  · simp [bind, Except.bind]
  · by_cases hlast : n ≤ 1
    · simp [bind, Except.bind, pure, Except.pure, hlast, Int.not_lt.mpr hlast, eq_comm]
    · rcases g.firstMatches query (n - 1) rest with e | others
      · simp [bind, Except.bind, hlast]
      · simp [bind, Except.bind, pure, Except.pure, hlast, Int.not_le.mp hlast, eq_comm]

/-- The search for documents ends with the match that fills the limit. -/
lemma length_firstMatches_le (query : Draft) {vs found : List Vertex} (hn : 1 ≤ n)
    (h : g.firstMatches query n vs = .ok found) : found.length ≤ n := by
  induction vs generalizing n found with
  | nil =>
      obtain rfl := Except.ok.inj h
      simpa using Int.le_trans (by decide) hn
  | cons d rest ih =>
      rcases firstMatches_cons_iff.mp h with ⟨-, h⟩ | ⟨-, -, rfl⟩ | ⟨-, hmore, others, hrest, rfl⟩
      · exact ih hn h
      · simpa using hn
      · have hothers := ih (by omega) hrest
        rw [List.length_cons]
        omega

/-- A read that may find properties without an order has found what it returns. -/
lemma fitting_inv {α : Type} {read : Except Mismatch (List α)} {f : List α → List Row}
    (h : (fitting read).map f = .ok rows) : ∃ found, read = .ok found ∧ rows = f found := by
  cases read with
  | error e => exact absurd h (by simp [fitting, Except.mapError, Except.map])
  | ok found => exact ⟨found, rfl, (Except.ok.inj h).symm⟩

/-- What is cut to a limit after it has been found is not longer than the limit. -/
lemma length_le_of_map_limited {α : Type} {read : Except Mismatch (List α)} {found : List α}
    (hn : 0 ≤ n) (h : read.map (limited n) = .ok found) : found.length ≤ n := by
  cases read with
  | error e => exact absurd h (by simp [Except.map])
  | ok all =>
      obtain rfl := Except.ok.inj h
      exact length_limited_le hn all

/-- An operation with a limit is a read: it leaves the graph as it is. -/
lemma execute_of_limit {op : Operation} (hop : op.limit? = some n) :
    g.execute op = (g.answer op).map fun rows => (g, rows) := by
  cases op <;> first | rfl | exact absurd hop (by simp [Operation.limit?])

lemma answer_of_execute {op : Operation} (hop : op.limit? = some n)
    (h : g.execute op = .ok (g', rows)) : g.answer op = .ok rows := by
  rw [execute_of_limit hop] at h
  cases hanswer : g.answer op with
  | error e =>
      rw [hanswer] at h
      exact absurd h (by simp [Except.map])
  | ok answer =>
      rw [hanswer] at h
      rw [(Prod.mk.inj (Except.ok.inj h)).2]

/-- **An operation returns no more rows than it asks for.** -/
theorem length_le_of_execute {op : Operation} (hop : op.limit? = some n) (hn : 1 ≤ n)
    (h : g.execute op = .ok (g', rows)) : rows.length ≤ n := by
  have hanswer := answer_of_execute hop h
  have hn' : 0 ≤ n := by omega
  cases op with
  | matchDocuments query limit =>
      obtain rfl := Option.some.inj hop
      rw [answer] at hanswer
      cases hfound : g.matchDocuments query limit with
      | error e =>
          rw [hfound] at hanswer
          exact absurd hanswer (by simp [Except.mapError, Except.map])
      | ok found =>
          rw [hfound] at hanswer
          obtain rfl := Except.ok.inj hanswer
          rw [vertexRows, List.length_map]
          exact length_firstMatches_le query hn hfound
  | entitiesByCategory category subCategory limit =>
      obtain rfl := Option.some.inj hop
      obtain rfl := Except.ok.inj hanswer
      rw [vertexRows, List.length_map]
      exact length_limited_le hn' _
  | entitiesByText pattern category limit =>
      obtain rfl := Option.some.inj hop
      obtain ⟨found, hfound, rfl⟩ := fitting_inv hanswer
      rw [vertexRows, List.length_map]
      simp only [entitiesByText, bind_pure_comp] at hfound
      exact length_le_of_map_limited hn' hfound
  | relatedEntities entity maxHops limit =>
      obtain rfl := Option.some.inj hop
      obtain rfl := Except.ok.inj hanswer
      rw [vertexRows, List.length_map]
      exact length_limited_le hn' _
  | documentsForEntity entity limit =>
      obtain rfl := Option.some.inj hop
      obtain rfl := Except.ok.inj hanswer
      rw [vertexRows, List.length_map]
      exact length_limited_le hn' _
  | frequentPairs minimum limit =>
      obtain rfl := Option.some.inj hop
      obtain ⟨found, hfound, rfl⟩ := fitting_inv hanswer
      rw [List.length_map]
      exact length_le_of_map_limited hn' hfound
  | commonConnections seeds limit =>
      obtain rfl := Option.some.inj hop
      obtain ⟨found, hfound, rfl⟩ := fitting_inv hanswer
      rw [vertexRows, List.length_map]
      exact length_le_of_map_limited hn' hfound
  | upsertVertex | upsertEdge | entitiesInDocument | nothing | loose =>
      exact absurd hop (by simp [Operation.limit?])

/-- The empty traversal returns no rows. -/
lemma execute_of_isEmpty {t : Traversal} (ht : t.isEmpty = true) :
    g.execute t.operation = .ok (g, []) := by
  obtain ⟨script, bindings, op⟩ := t
  cases op with
  | nothing => rfl
  | loose step given =>
      have hstep : step.text? = some "empty" := by
        simpa [Traversal.isEmpty, Operation.step] using ht
      rw [execute, carryOut, if_pos hstep]
  | upsertVertex | upsertEdge | matchDocuments | entitiesByCategory | entitiesByText
  | relatedEntities | documentsForEntity | entitiesInDocument | frequentPairs
  | commonConnections => exact absurd ht (by simp [Traversal.isEmpty, Operation.step, Value.text?])

end Graph

end EntityGraph
