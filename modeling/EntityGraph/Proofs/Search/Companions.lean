import EntityGraph.Proofs.Graph.Pairs
import EntityGraph.Proofs.Recording.Documents
import EntityGraph.Proofs.Search.Appearances
/-!
Entities that share documents, as the graph of a history tells it.

* `Graph.sharedDocuments`: the number of documents in which two entities appear.
* `mentionedIn`: whether an entity is mentioned in some recording of a document.
* `History.texted`: everything that appears in a document has a text, which singles it out
  (`History.mem_textsOf_iff`).
* `History.sharedDocuments_eq_countP`: the number is told by what was recorded, and
  `History.length_satisfying` says that it is the one that the query for both texts finds.
* `History.co_occurrences`: so the pairs that are returned as frequent are exact, and so are their
  numbers.
-/

namespace EntityGraph

/-- The number of documents in which two vertices appear. -/
def Graph.sharedDocuments (g : Graph) (v w : Vertex) : Nat :=
  (g.labelled documentLabel).countP fun d =>
    decide ((v.id, d.id, Relationship.appearsIn) ∈ g.edgeKeys) &&
      decide ((w.id, d.id, Relationship.appearsIn) ∈ g.edgeKeys)

/-- The search for frequent pairs returns the rows that the graph answers with, flattened. -/
lemma Search.frequent_of_faultless {s : Session} {minimum limit : Int} {rows : List Row}
    (b : Bounds) (hminimum : 1 ≤ minimum) (hlimit : 1 ≤ limit) (hb : limit ≤ b.maxLimit)
    (hs : s.Faultless)
    (h : s.graph.execute (.frequentPairs minimum limit) = .ok (s.graph, rows)) :
    ∃ s', frequent b (.int minimum) (.int limit) s = (.ok (rows.map Row.flattenPair), s') := by
  obtain ⟨s₁, hbound, hgraph, hfaults⟩ := b.limit_of_pos hlimit s
  rw [Int.min_eq_left hb] at hbound
  have hs₁ : s₁.Faultless := by rwa [Session.Faultless, hfaults]
  rw [← hgraph] at h
  obtain ⟨s', hrun⟩ := run_of_faultless (t := Traversal.frequentPairs minimum limit)
    "find_frequent_co_occurring_entities" hs₁ h
  refine ⟨s', ?_⟩
  rw [frequent, Action.bind_of_ok (ofExcept_positive "min_occurrences" hminimum s),
    Action.bind_of_ok hbound, Action.bind_of_ok hrun]
  rfl

namespace Recording

open Relationship Search Query

variable {p : Policy} {h : List (Document × Recorded)} {g : Graph} {v w : Vertex}
  {a b id document : String} {minimum limit : Int}

/-- Whether an entity is mentioned with enough confidence in some recording of a document. -/
def mentionedIn (p : Policy) (h : List (Document × Recorded)) (id document : String) : Bool :=
  h.any fun x => x.1.id == document &&
    (Entity.confident p.threshold x.1.entities).any fun e => e.id == id

lemma mentionedIn_iff : mentionedIn p h id document = true ↔
    ∃ d r, (d, r) ∈ h ∧ d.id = document ∧ Mentions p d id := by
  simp only [mentionedIn, List.any_eq_true, Bool.and_eq_true, beq_iff_eq, Prod.exists, Mentions]

namespace History

/-- An entity appears in a document exactly if it is mentioned there. -/
lemma edge_iff_mentionedIn (H : History p h g) :
    (id, document, appearsIn) ∈ g.edgeKeys ↔ mentionedIn p h id document = true := by
  have hhas : (id, document, appearsIn) ∈ g.edgeKeys ↔
      ∃ d r, (d, r) ∈ h ∧ Says p d (.edge id document appearsIn) :=
    H.has_iff (k := .edge id document appearsIn)
  simp only [hhas, mentionedIn_iff, says_appearance_iff]

/-- **The number of documents that two entities share** is told by what was recorded. -/
theorem sharedDocuments_eq_countP (H : History p h g) (hids : IdsApart p h) (v w : Vertex) :
    g.sharedDocuments v w
      = (recordedIds h).countP fun document =>
          mentionedIn p h v.id document && mentionedIn p h w.id document := by
  rw [← H.documentIds_eq hids, Graph.documentIds, List.countP_map, Graph.sharedDocuments]
  refine List.countP_congr fun d _ => ?_
  simp only [Function.comp_apply, Bool.and_eq_true, decide_eq_true_iff, H.edge_iff_mentionedIn]

/-- What appears in a document is an entity. -/
lemma entity_of_appearance (H : History p h g) (hids : IdsApart p h) (hv : v ∈ g.vertices)
    (hedge : (v.id, document, appearsIn) ∈ g.edgeKeys) : v ∈ g.labelled entityLabel := by
  obtain ⟨d, r, hmem, -, e, he, hid⟩ := mentionedIn_iff.mp (H.edge_iff_mentionedIn.mp hedge)
  obtain ⟨hin, hconfident⟩ := mem_confident_iff.mp he
  obtain ⟨first, time, -, hsame, hfirst⟩ :=
    H.exists_entity_vertex hids (mem_mentions_iff.mpr ⟨d, r, hmem, hin, hconfident⟩)
  have heq : entityVertex first time = v :=
    List.inj_on_of_nodup_map H.simple.vertices hfirst hv (hsame.trans hid)
  rw [← heq]
  exact List.mem_filter.mpr ⟨hfirst, isEntity_entityVertex first time⟩

/-- Everything that appears in a document has a text. -/
lemma texted (H : History p h g) (hids : IdsApart p h) : g.Texted := by
  intro document v hv
  obtain ⟨hvertex, hedge⟩ := H.simple.mem_map_snd_appearances_iff.mp hv
  obtain ⟨e, -, htext⟩ := H.exists_stored_text hids (H.entity_of_appearance hids hvertex hedge)
  exact ⟨e.text, htext⟩

/-- A document has a text if the entity that is stored with it appears there. -/
lemma mem_textsOf_iff (H : History p h g) (hids : IdsApart p h)
    (hv : v ∈ g.labelled entityLabel) (ha : v.property "text" = .str a) (document : String) :
    a ∈ g.textsOf document ↔ (v.id, document, appearsIn) ∈ g.edgeKeys := by
  rw [Graph.mem_textsOf_iff (H.texted hids)]
  simp only [H.simple.mem_map_snd_appearances_iff]
  constructor
  · rintro ⟨u, ⟨hu, hedge⟩, htext⟩
    have hu' := H.entity_of_appearance hids hu hedge
    rwa [H.id_of_hasText hids hv (Vertex.hasText_of_property ha),
      ← H.id_of_hasText hids hu' (Vertex.hasText_of_property htext)]
  · intro hedge
    exact ⟨v, ⟨(List.mem_filter.mp hv).1, hedge⟩, ha⟩

/-- A text of a document is that of an entity. -/
lemma exists_of_mem_textsOf (H : History p h g) (hids : IdsApart p h)
    (ha : a ∈ g.textsOf document) :
    ∃ v ∈ g.labelled entityLabel, v.property "text" = .str a := by
  obtain ⟨v, hv, htext⟩ := (Graph.mem_textsOf_iff (H.texted hids)).mp ha
  obtain ⟨hvertex, hedge⟩ := H.simple.mem_map_snd_appearances_iff.mp hv
  exact ⟨v, H.entity_of_appearance hids hvertex hedge, htext⟩

section Stored

variable (H : History p h g) (hids : IdsApart p h) (hv : v ∈ g.labelled entityLabel)
  (hw : w ∈ g.labelled entityLabel) (ha : v.property "text" = .str a)
  (hb : w.property "text" = .str b)

include H hids hv hw ha hb

/-- Two texts share as many documents as the entities that are stored with them. -/
lemma countP_textsOf :
    ((g.labelled documentLabel).countP fun d =>
      decide (a ∈ g.textsOf d.id) && decide (b ∈ g.textsOf d.id)) = g.sharedDocuments v w := by
  simp only [H.mem_textsOf_iff hids hv ha, H.mem_textsOf_iff hids hw hb]
  rfl

/-- The query for both texts finds the documents that the entities share. -/
lemma length_satisfying :
    (g.satisfying (.and (.term ⟨textField, a⟩) (.term ⟨textField, b⟩))).length
      = g.sharedDocuments v w := by
  rw [Graph.satisfying, ← List.countP_eq_length_filter, Graph.sharedDocuments]
  refine List.countP_congr fun d _ => ?_
  simp only [Query.holds, Bool.and_eq_true, decide_eq_true_iff]
  exact and_congr
    (H.satisfies_stored_text_iff hids hv (Vertex.hasText_of_property ha) d.id)
    (H.satisfies_stored_text_iff hids hw (Vertex.hasText_of_property hb) d.id)

end Stored

/-- **Which pairs share documents.** -/
lemma mem_companions_iff (H : History p h g) (hids : IdsApart p h) (hminimum : 1 ≤ minimum)
    {n : Nat} : ((a, b), n) ∈ g.companions minimum ↔ a < b ∧ minimum ≤ n ∧
      ∃ v ∈ g.labelled entityLabel, ∃ w ∈ g.labelled entityLabel,
        v.property "text" = .str a ∧ w.property "text" = .str b ∧ n = g.sharedDocuments v w := by
  rw [Graph.mem_companions_iff hminimum]
  refine and_congr_right fun _ => and_congr_right fun hle => ?_
  constructor
  · intro hn
    have hpos : 0 < n := by omega
    rw [hn] at hpos
    obtain ⟨d, -, hboth⟩ := List.countP_pos_iff.mp hpos
    rw [Bool.and_eq_true, decide_eq_true_iff, decide_eq_true_iff] at hboth
    obtain ⟨v, hv, ha⟩ := H.exists_of_mem_textsOf hids hboth.1
    obtain ⟨w, hw, hb⟩ := H.exists_of_mem_textsOf hids hboth.2
    exact ⟨v, hv, w, hw, ha, hb, hn.trans (H.countP_textsOf hids hv hw ha hb)⟩
  · rintro ⟨v, hv, w, hw, ha, hb, hn⟩
    exact hn.trans (H.countP_textsOf hids hv hw ha hb).symm

/-- **Co-occurrence counts are exact.** Let the pairs of entities be asked for that share at least
some number of documents. The graph returns the first ones of all pairs of stored texts, the smaller
one first, for which the entities that are stored with them appear together in so many documents.
Pairs with more documents come first, and of pairs with the same number those with the smaller
texts; none is there twice. The number in a row is that of the documents that the query for both
texts finds, and that of the different documents in some recordings of which the one and the other
are mentioned, be it in the same recording or in different ones. The search of the service returns
the same, with every pair as a list. -/
theorem co_occurrences (H : History p h g) (hids : IdsApart p h) (hminimum : 1 ≤ minimum)
    (hlimit : 1 ≤ limit) :
    ∃ ranked : List ((String × String) × Nat),
      g.execute (.frequentPairs minimum limit) = .ok (g, (ranked.take limit.toNat).map fun x =>
        Graph.pairRow ((.str x.1.1, .str x.1.2), x.2)) ∧
      ranked.Pairwise Outranks ∧ (ranked.map Prod.fst).Nodup ∧
      (∀ a b n, ((a, b), n) ∈ ranked ↔ a < b ∧ minimum ≤ n ∧
        ∃ v ∈ g.labelled entityLabel, ∃ w ∈ g.labelled entityLabel,
          v.property "text" = .str a ∧ w.property "text" = .str b ∧ n = g.sharedDocuments v w) ∧
      (∀ a b n, ((a, b), n) ∈ ranked →
        (∀ room : Int, (g.labelled documentLabel).length ≤ room →
          ∃ rows, g.execute (.matchDocuments
            (.ofQuery (.and (.term ⟨textField, a⟩) (.term ⟨textField, b⟩))) room)
              = .ok (g, rows) ∧ rows.length = n) ∧
        n = (recordedIds h).countP fun document =>
          mentionedIn p h (vertexId a) document && mentionedIn p h (vertexId b) document) ∧
      ∀ (b : Bounds) (s : Session), limit ≤ b.maxLimit → s.graph = g → s.Faultless →
        ∃ s', frequent b (.int minimum) (.int limit) s
          = (.ok ((ranked.take limit.toNat).map fun x =>
              [("pair", .list [.str x.1.1, .str x.1.2]), ("coOccurrences", .int x.2)]), s') := by
  have hexecute := Graph.execute_frequentPairs (H.texted hids) minimum (by omega : 0 ≤ limit)
  refine ⟨g.companions minimum, hexecute, g.pairwise_companions minimum,
    g.nodup_companions minimum, fun a b n => H.mem_companions_iff hids hminimum,
    fun a b n hmem => ?_, fun b s hb hg hs => ?_⟩
  · obtain ⟨-, hle, v, hv, w, hw, ha, hb, hn⟩ := (H.mem_companions_iff hids hminimum).mp hmem
    refine ⟨fun room hroom => ?_, ?_⟩
    · have hlength := H.length_satisfying hids hv hw ha hb
      have hshared : g.sharedDocuments v w ≤ (g.labelled documentLabel).length :=
        List.countP_le_length
      refine ⟨_, Graph.execute_matchDocuments _ (by omega : 1 ≤ room), ?_⟩
      rw [Graph.vertexRows, List.length_map, ← Graph.satisfying, List.take_of_length_le (by omega),
        hlength, hn]
    · rw [hn, H.sharedDocuments_eq_countP hids,
        H.id_of_hasText hids hv (Vertex.hasText_of_property ha),
        H.id_of_hasText hids hw (Vertex.hasText_of_property hb)]
  · subst hg
    obtain ⟨s', hrun⟩ := frequent_of_faultless b hminimum hlimit hb hs hexecute
    exact ⟨s', by rw [hrun, List.map_map]; rfl⟩

/-- A note that mentions a person. -/
def note : Document where
  id := "note"
  metadata := []
  entities := [⟨⟨"Ada", "Person"⟩, none, 0.9, none, none⟩]

/-- The note as it was changed later: it mentions a place, and the person no more. -/
def changedNote : Document where
  id := "note"
  metadata := []
  entities := [⟨⟨"Berlin", "Location"⟩, some "City", 0.9, none, none⟩]

/-- The person and the place share the note, though no recording of it mentions both. -/
theorem co_occurrences_of_note_and_changedNote :
    ∃ (g : Graph) (ranked : List ((String × String) × Nat)),
      History {} [(note, recorded {} note), (changedNote, recorded {} changedNote)] g ∧
      g.execute (.frequentPairs 1 5) = .ok (g, (ranked.take 5).map fun x =>
        Graph.pairRow ((.str x.1.1, .str x.1.2), x.2)) ∧
      (("Ada", "Berlin"), 1) ∈ ranked := by
  obtain ⟨g, H⟩ : ∃ g, History {}
      [(note, recorded {} note), (changedNote, recorded {} changedNote)] g :=
    History.nil.exists_append [note, changedNote]
  have hids : IdsApart {} [(note, recorded {} note), (changedNote, recorded {} changedNote)] :=
    idsApart_of_not_prefix (by decide)
  have hmentions :
      mentions {} [(note, recorded {} note), (changedNote, recorded {} changedNote)]
        = note.entities ++ changedNote.entities := by
    have hconfident : ∀ d ∈ [note, changedNote],
        Entity.confident (Policy.threshold {}) d.entities = d.entities := by
      intro d hd
      rcases List.mem_pair.mp hd with rfl | rfl
      · exact List.filter_eq_self.mpr (by decide +kernel)
      · exact List.filter_eq_self.mpr (by decide +kernel)
    rw [mentions, List.flatMap_cons, List.flatMap_singleton, hconfident note List.mem_cons_self,
      hconfident changedNote (List.mem_cons_of_mem _ List.mem_cons_self)]
  obtain ⟨v, hv, hid, ha⟩ := H.exists_stored hids
    (e := ⟨⟨"Ada", "Person"⟩, none, 0.9, none, none⟩) (by
      rw [hmentions]
      exact (Entity.isFirst_cons_of_eq rfl).mpr rfl)
  obtain ⟨w, hw, hid', hb⟩ := H.exists_stored hids
    (e := ⟨⟨"Berlin", "Location"⟩, some "City", 0.9, none, none⟩) (by
      rw [hmentions]
      exact (Entity.isFirst_cons_of_ne (by decide +kernel)).mpr
        ((Entity.isFirst_cons_of_eq rfl).mpr rfl))
  have hshared : g.sharedDocuments v w = 1 := by
    rw [H.sharedDocuments_eq_countP hids, hid, hid']
    decide +kernel
  obtain ⟨ranked, hrows, -, -, hmem, -⟩ :=
    H.co_occurrences hids (by decide : (1 : Int) ≤ 1) (by decide : (1 : Int) ≤ 5)
  exact ⟨g, ranked, H, hrows, (hmem "Ada" "Berlin" 1).mpr
    ⟨by decide, by decide, v, hv, w, hw, ha, hb, hshared.symm⟩⟩

end History

end Recording

end EntityGraph
