import EntityGraph.Proofs.Query.Evaluation
import EntityGraph.Proofs.Recording.Documents
import EntityGraph.Proofs.Search.Keywords
import EntityGraph.Proofs.Search.Run
import EntityGraph.Proofs.Search.Terms
/-!
Keyword searches in the graph of a history.

* `History.map_id_found`: the documents that are found are the first ones for which the query holds
  of what was recorded, in the order of their first recording.
* `History.keyword_search`: carrying out a search returns their rows.
-/

namespace EntityGraph

open Query

namespace Recording

namespace History

variable {p : Policy} {g : Graph} {s : Session} {h : List (Document × Recorded)} {text : String}
  {q : Query} {limit : Int}

/-- **The documents that are found** are the first ones for which the query holds of what was
recorded, in the order of their first recording. -/
lemma map_id_found (H : History p h g) (hids : IdsApart p h)
    (hparse : parse text = .ok q) (limit : Int) : (g.found text limit).map Vertex.id
      = ((recordedIds h).filter fun id => q.holds (said p h id)).take limit.toNat := by
  have htruth : ∀ id, (q.holds fun t => g.satisfies id t.asked) = q.holds (said p h id) :=
    fun id => holds_congr fun t ht => H.satisfies_eq_said hids (known_of_parse hparse t ht) id
  rw [g.found_of_parse hparse, Graph.satisfying, List.map_take, ← H.documentIds_eq hids,
    Graph.documentIds, List.filter_map]
  simp only [htruth, Function.comp_def]

/-- **A keyword search answers the query about what was recorded**: with a positive limit it returns
the rows of the first documents for which the query holds, in the order of their first recording and
each of them once, and leaves the graph as it is. A term holds of a document if an entity that is
mentioned in one of its recordings has the value of the term in its first mention, wherever that
is. -/
theorem keyword_search (H : History p h g) (hids : IdsApart p h)
    (hparse : parse text = .ok q) (hlimit : 1 ≤ limit) (hs : s.Faultless) (hg : s.graph = g) :
    ∃ t, ∃ vs : List Vertex, ∃ s', Traversal.search text (.int limit) = .ok t ∧
      Action.execute t s = (.ok (vs.map Vertex.row), s') ∧ s'.graph = g ∧
      vs.map Vertex.id
        = ((recordedIds h).filter fun id => q.holds (said p h id)).take limit.toNat ∧
      (vs.map Vertex.id).Nodup ∧
      ∀ v ∈ vs, v ∈ g.labelled documentLabel ∧ Fields.get? v.row "id" = some (.str v.id) := by
  subst hg
  obtain ⟨t, hsearch, hexecute⟩ := s.graph.execute_search text hlimit
  obtain ⟨s', hrun, hgraph⟩ := Action.execute_of_faultless hs hexecute
  have hsublist := s.graph.found_sublist text limit
  have hnodup : (s.graph.vertices.map Vertex.id).Nodup := H.simple.vertices
  refine ⟨t, s.graph.found text limit, s', hsearch, hrun, hgraph, H.map_id_found hids hparse limit,
    hnodup.sublist ((hsublist.trans List.filter_sublist).map _), fun v hv => ?_⟩
  have hlabelled := hsublist.subset hv
  obtain ⟨x, time, -, rfl⟩ := H.documentVertex_of_labelled hids hlabelled
  exact ⟨hlabelled, Vertex.get?_id_row (id_not_mem_documentVertex x.1 time)⟩

/-- The letter is recorded before the memo, and once more after it. Both documents mention the place
that the letter takes for an organization, so both are found by this category, and neither by the
spelling or the subcategory of the memo. -/
theorem keyword_search_of_letter_memo_letter :
    ∃ g, History {} [(letter, recorded {} letter), (memo, recorded {} memo),
        (letter, recorded {} letter)] g ∧
      parse "type:Organization NOT Berlin NOT type:City" = .ok (.and (.and
        (.term ⟨"type", "Organization"⟩) (.not (.term ⟨"text", "Berlin"⟩)))
        (.not (.term ⟨"type", "City"⟩))) ∧
      ∃ t, ∃ vs : List Vertex, ∃ s',
        Traversal.search "type:Organization NOT Berlin NOT type:City" (.int 5) = .ok t ∧
        Action.execute t { graph := g } = (.ok (vs.map Vertex.row), s') ∧ s'.graph = g ∧
        vs.map Vertex.id = ["letter", "memo"] := by
  obtain ⟨g, H⟩ : ∃ g, History {} [(letter, recorded {} letter), (memo, recorded {} memo),
      (letter, recorded {} letter)] g := History.nil.exists_append [letter, memo, letter]
  have hids : IdsApart {} [(letter, recorded {} letter), (memo, recorded {} memo),
      (letter, recorded {} letter)] := idsApart_of_not_prefix (by decide)
  have hparse : parse "type:Organization NOT Berlin NOT type:City" = .ok (.and (.and
      (.term ⟨"type", "Organization"⟩) (.not (.term ⟨"text", "Berlin"⟩)))
      (.not (.term ⟨"type", "City"⟩))) := rfl
  have hlimit : (1 : Int) ≤ 5 := by decide
  obtain ⟨t, vs, s', hsearch, hrun, hgraph, hfound, -⟩ :=
    H.keyword_search (s := { graph := g }) hids hparse hlimit (.of_eq_nil rfl) rfl
  refine ⟨g, H, hparse, t, vs, s', hsearch, hrun, hgraph, ?_⟩
  rw [hfound]
  decide +kernel

end History

end Recording

end EntityGraph
