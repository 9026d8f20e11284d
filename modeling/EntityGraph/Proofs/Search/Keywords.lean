import EntityGraph.Proofs.Graph.Reading
import EntityGraph.Proofs.Query.Joining
/-!
Keyword searches as sets of documents.

* `Graph.satisfying`: the documents of a graph that satisfy a query.
* `Graph.found`: the documents that a search for a text returns. `execute_search` says that carrying
  out the search returns their rows and leaves the graph as it is.
* `mem_found_of_room`: a search that has room for all documents returns those that satisfy the
  query.
* `found_of_joined_texts`: so negations, conjunctions and disjunctions of query texts return
  complements, intersections and unions.
-/

namespace EntityGraph

open Query

namespace Graph

variable {g : Graph} {text : String} {q : Query} {limit : Int} {d : Vertex}

/-- The documents that satisfy a query, in order. -/
def satisfying (g : Graph) (q : Query) : List Vertex :=
  (g.labelled documentLabel).filter fun d => q.holds fun t => g.satisfies d.id t.asked

/-- The documents that a search for a text returns: the first ones that satisfy the query that the
text writes, and none if it writes no query. -/
def found (g : Graph) (text : String) (limit : Int) : List Vertex :=
  match parse? text with
  | some q => (g.satisfying q).take limit.toNat
  | none => []

lemma found_of_parse (h : parse text = .ok q) :
    g.found text limit = (g.satisfying q).take limit.toNat := by
  have hq : parse? text = some q := by rw [parse?, h]; rfl
  rw [found, hq]

/-- A search returns documents, in their order and each of them once. -/
lemma found_sublist (g : Graph) (text : String) (limit : Int) :
    (g.found text limit).Sublist (g.labelled documentLabel) := by
  rw [found]
  split
  · exact (List.take_sublist _ _).trans List.filter_sublist
  · exact List.nil_sublist _

/-- **Carrying out a search** with a positive limit returns the rows of the documents that are found
and leaves the graph as it is. -/
theorem execute_search (g : Graph) (text : String) (hlimit : 1 ≤ limit) :
    ∃ t, Traversal.search text (.int limit) = .ok t ∧
      g.execute t.operation = .ok (g, vertexRows (g.found text limit)) := by
  have hpositive : positive "limit" (.int limit) = .ok limit := by rw [positive, if_pos hlimit]
  rw [Traversal.search, hpositive, found]
  cases parse? text with
  | none => exact ⟨.empty, rfl, rfl⟩
  | some q => exact ⟨.matching q limit, rfl, execute_matchDocuments q hlimit⟩

/-- A search without a positive limit is refused. -/
lemma search_of_not_positive (text : String) (hlimit : limit < 1) :
    Traversal.search text (.int limit) = .error (.notPositive "limit" (.int limit)) := by
  rw [Traversal.search, positive, if_neg (by omega)]
  rfl

/-- A search that has room for all documents returns those that satisfy the query. -/
lemma mem_found_of_room (hroom : (g.labelled documentLabel).length ≤ limit)
    (h : parse text = .ok q) : d ∈ g.found text limit ↔
      d ∈ g.labelled documentLabel ∧ (q.holds fun t => g.satisfies d.id t.asked) = true := by
  have hlength : (g.satisfying q).length ≤ (g.labelled documentLabel).length :=
    List.length_filter_le _ _
  rw [found_of_parse h, List.take_of_length_le (by omega), satisfying, List.mem_filter]

/-- **Query texts compose like sets of documents.** Take two texts that write queries, and a limit
with room for all documents. A text in parentheses writes the same query. Negated, joined by `AND`
or by nothing, and joined by `OR`, the texts return the complement, the intersection and the union
of what they return on their own; for `OR` they need no parentheses. What a text returns are
documents in their order, and carrying out the search returns their rows; only a search without a
positive limit is refused, which has room for all documents only if there are none. -/
theorem found_of_joined_texts (g : Graph) {t₁ t₂ : String} {q₁ q₂ : Query}
    (h₁ : parse t₁ = .ok q₁) (h₂ : parse t₂ = .ok q₂)
    (hroom : (g.labelled documentLabel).length ≤ limit) :
    parse (grouped t₁) = .ok q₁ ∧
    (∀ d, d ∈ g.found ("NOT " ++ grouped t₁) limit ↔
      d ∈ g.labelled documentLabel ∧ d ∉ g.found t₁ limit) ∧
    (∀ op ∈ [" AND ", " "], ∀ d, d ∈ g.found (grouped t₁ ++ op ++ grouped t₂) limit ↔
      d ∈ g.found t₁ limit ∧ d ∈ g.found t₂ limit) ∧
    (∀ u₁ ∈ [t₁, grouped t₁], ∀ u₂ ∈ [t₂, grouped t₂], ∀ d,
      d ∈ g.found (u₁ ++ " OR " ++ u₂) limit ↔ d ∈ g.found t₁ limit ∨ d ∈ g.found t₂ limit) ∧
    ∀ text, (g.found text limit).Sublist (g.labelled documentLabel) ∧
      (1 ≤ limit → ∃ t, Traversal.search text (.int limit) = .ok t ∧
        g.execute t.operation = .ok (g, vertexRows (g.found text limit))) ∧
      (limit < 1 → Traversal.search text (.int limit)
        = .error (.notPositive "limit" (.int limit))) := by
  have hm₁ := fun d => mem_found_of_room (d := d) hroom h₁
  have hm₂ := fun d => mem_found_of_room (d := d) hroom h₂
  refine ⟨parse_grouped h₁, fun d => ?_, fun op hop d => ?_, fun u₁ hu₁ u₂ hu₂ d => ?_,
    fun text => ⟨g.found_sublist text limit, g.execute_search text, search_of_not_positive text⟩⟩
  · rw [mem_found_of_room hroom (parse_not_grouped h₁), hm₁, Query.holds, Bool.not_eq_true',
      ← Bool.not_eq_true]
    tauto
  · have hparse : parse (grouped t₁ ++ op ++ grouped t₂) = .ok (.and q₁ q₂) := by
      rcases List.mem_pair.mp hop with rfl | rfl
      · exact parse_and_grouped h₁ h₂
      · exact parse_beside_grouped h₁ h₂
    rw [mem_found_of_room hroom hparse, hm₁, hm₂, Query.holds, Bool.and_eq_true]
    tauto
  · have hparse₁ : parse u₁ = .ok q₁ := by
      rcases List.mem_pair.mp hu₁ with rfl | rfl
      · exact h₁
      · exact parse_grouped h₁
    have hparse₂ : parse u₂ = .ok q₂ := by
      rcases List.mem_pair.mp hu₂ with rfl | rfl
      · exact h₂
      · exact parse_grouped h₂
    obtain ⟨q, hparse, hholds⟩ := exists_parse_or hparse₁ hparse₂
    rw [mem_found_of_room hroom hparse, hm₁, hm₂, hholds, Bool.or_eq_true]
    tauto

/-- Two documents, in one of which a person appears. -/
def board : Graph where
  vertices := [⟨"letter", .str documentLabel, []⟩, ⟨"memo", .str documentLabel, []⟩,
    ⟨"ent-ada", .str entityLabel, [("text", .str "Ada")]⟩]
  edges := [⟨1, Relationship.appearsIn, "ent-ada", "memo", []⟩]

/-- A negated disjunction returns the other document. Followed by one more alternative, it returns
what the alternative returns, too. -/
theorem found_of_joined_texts_of_disjunction :
    parse "Ada OR Berlin" = .ok (.or (.term ⟨"text", "Ada"⟩) (.term ⟨"text", "Berlin"⟩)) ∧
      parse "type:Person Ada" = .ok (.and (.term ⟨"type", "Person"⟩) (.term ⟨"text", "Ada"⟩)) ∧
      (board.labelled documentLabel).length ≤ (2 : Int) ∧
      (board.found "Ada OR Berlin" 2).map Vertex.id = ["memo"] ∧
      (board.found "NOT (Ada OR Berlin)" 2).map Vertex.id = ["letter"] ∧
      (∀ d, d ∈ board.found "NOT (Ada OR Berlin)" 2 ↔
        d ∈ board.labelled documentLabel ∧ d ∉ board.found "Ada OR Berlin" 2) ∧
      ∀ d, d ∈ board.found "Ada OR Berlin OR (type:Person Ada)" 2 ↔
        d ∈ board.found "Ada OR Berlin" 2 ∨ d ∈ board.found "type:Person Ada" 2 := by
  have h₁ : parse "Ada OR Berlin"
      = .ok (.or (.term ⟨"text", "Ada"⟩) (.term ⟨"text", "Berlin"⟩)) := rfl
  have h₂ : parse "type:Person Ada"
      = .ok (.and (.term ⟨"type", "Person"⟩) (.term ⟨"text", "Ada"⟩)) := rfl
  have hroom : (board.labelled documentLabel).length ≤ (2 : Int) := by decide
  obtain ⟨-, hnot, -, hor, -⟩ := found_of_joined_texts board h₁ h₂ hroom
  exact ⟨h₁, h₂, hroom, by decide +kernel, by decide +kernel, hnot,
    hor _ List.mem_cons_self _ (List.mem_cons_of_mem _ List.mem_cons_self)⟩

end Graph

end EntityGraph
