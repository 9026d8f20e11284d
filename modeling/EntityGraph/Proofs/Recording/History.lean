import EntityGraph.Proofs.Recording.Keys
/-!
Histories: documents that were recorded one after the other.

* `History`: the recordings that have led from the empty graph to a graph, with their reports.
* `mentions`: the confident mentions in the documents of a history.
* `recordEach`, `History.extendEach`: several recordings, and that they prolong a history.
* `has_record_iff`: what one recording adds.
* `History.has_iff`: the graph of a history has what its documents say, and nothing else.
* `History.record_again`: recording a document of the history once more changes nothing.
* `History.graph_contents`: the vertices and edges of the graph, told by the mentions in the
  documents.
-/

namespace EntityGraph.Recording

variable {p : Policy} {d : Document} {r : Recorded} {g g' : Graph} {s s' : Session}
  {h h' : List (Document × Recorded)} {k : Key}

/-- The documents that have been recorded under one policy, starting from the empty graph, with the
reports about them, and the graph that they have led to. Between two recordings everything but the
graph may change. -/
inductive History (p : Policy) : List (Document × Recorded) → Graph → Prop where
  | nil : History p [] .empty
  | extend {h : List (Document × Recorded)} {g : Graph} {d : Document} {r : Recorded}
      {s s' : Session} (past : History p h g) (hs : s.graph = g)
      (hrun : record p d s = (.ok r, s')) : History p (h ++ [(d, r)]) s'.graph

/-- All confident mentions in the recorded documents, in the order of their recording. -/
def mentions (p : Policy) (h : List (Document × Recorded)) : List Entity :=
  h.flatMap fun x => Entity.confident p.threshold x.1.entities

lemma mem_mentions_iff {e : Entity} :
    e ∈ mentions p h ↔ ∃ d r, (d, r) ∈ h ∧ e ∈ d.entities ∧ p.threshold ≤ e.confidence := by
  simp only [mentions, List.mem_flatMap, mem_confident_iff, Prod.exists]

/-- A session after some documents have been recorded, one after the other. -/
def recordEach (p : Policy) (ds : List Document) (s : Session) : Session :=
  ds.foldl (fun s d => (record p d s).2) s

lemma grounded_stamp (p : Policy) (d : Document) (c : Clock) :
    Grounded [] ((c.stamp (writes p d)).map Prod.fst) := by
  rw [Clock.map_fst_stamp]
  exact grounded_writes p d

/-- **A recording adds what its document says**, and nothing else. -/
theorem has_record_iff (hrun : record p d s = (.ok r, s')) :
    s'.graph.Has k ↔ s.graph.Has k ∨ Says p d k := by
  obtain ⟨-, hgraph, -, -⟩ := (record_performs p d).of_ok hrun
  have hgrounded := grounded_stamp p d s.clock
  have hkeys : (s.clock.stamp (writes p d)).map (fun op => op.1.key)
      = (writes p d).map Write.key := by
    rw [← Clock.map_fst_stamp s.clock (writes p d), List.map_map, Clock.map_fst_stamp]
    rfl
  rw [hgraph, hgrounded.has_writeAll_iff (by simp), hkeys, key_mem_writes_iff]

/-- A recording changes nothing if what its document says is there, whether it fails or not. -/
theorem graph_record_eq_self (hsaid : ∀ k, Says p d k → s.graph.Has k) :
    (record p d s).2.graph = s.graph := by
  obtain ⟨ops, hsub, hgraph⟩ := (record_performs p d).made s
  rw [hgraph]
  refine Graph.writeAll_eq_self fun op hop => hsaid op.1.key ?_
  have hw : op.1 ∈ writes p d := hsub.subset (List.mem_map_of_mem hop)
  exact key_mem_writes_iff.mp (List.mem_map_of_mem hw)

namespace History

/-- The documents recorded in a session that no fault strikes prolong a history. -/
lemma extendEach (H : History p h s.graph) (hs : s.Faultless) (ds : List Document) :
    History p (h ++ ds.map fun d => (d, recorded p d)) (recordEach p ds s).graph := by
  induction ds generalizing h s with
  | nil => rwa [List.map_nil, List.append_nil]
  | cons d ds ih =>
      obtain ⟨s', hrun⟩ := (record_performs p d).succeeds hs
      obtain ⟨-, -, -, hfaults⟩ := (record_performs p d).of_ok hrun
      have H' := ih (H.extend rfl hrun) (hfaults hs)
      rw [List.append_assoc] at H'
      rwa [recordEach, List.foldl_cons, hrun]

/-- Every list of documents is the list of the documents of a history. -/
lemma exists_append (H : History p h g) (ds : List Document) :
    ∃ g', History p (h ++ ds.map fun d => (d, recorded p d)) g' :=
  ⟨_, H.extendEach (s := { graph := g }) (.of_eq_nil rfl) ds⟩

/-- **The graph of a history** has what its documents say, and nothing else. -/
theorem has_iff (H : History p h g) : g.Has k ↔ ∃ d r, (d, r) ∈ h ∧ Says p d k := by
  induction H with
  | nil =>
      cases k <;> simp [Graph.Has, Graph.vertexIds, Graph.edgeKeys, Graph.empty]
  | @extend h g d r s s' past hs hrun ih =>
      rw [has_record_iff hrun, hs, ih]
      simp only [List.mem_append, List.mem_singleton, Prod.mk.injEq]
      constructor
      · rintro (⟨d', r', hmem, hsaid⟩ | hsaid)
        · exact ⟨d', r', .inl hmem, hsaid⟩
        · exact ⟨d, r, .inr ⟨rfl, rfl⟩, hsaid⟩
      · rintro ⟨d', r', hmem | ⟨rfl, rfl⟩, hsaid⟩
        · exact .inl ⟨d', r', hmem, hsaid⟩
        · exact .inr hsaid

/-- What was reported depends on the document alone. -/
lemma reported (H : History p h g) (hmem : (d, r) ∈ h) : r = recorded p d := by
  induction H with
  | nil => exact absurd hmem List.not_mem_nil
  | extend past hs hrun ih =>
      rcases List.mem_append.mp hmem with hmem | hmem
      · exact ih hmem
      · obtain ⟨rfl, rfl⟩ := Prod.mk.inj (List.mem_singleton.mp hmem)
        exact ((record_performs p _).of_ok hrun).1

lemma simple (H : History p h g) : g.Simple := by
  induction H with
  | nil => exact ⟨List.nodup_nil, List.nodup_nil⟩
  | extend past hs hrun ih =>
      rw [((record_performs p _).of_ok hrun).2.1, hs]
      exact ih.writeAll _

/-- **Recording a document again** leaves the graph as it is, whatever happens in between and even
if it fails; what it reports is what was reported before, and without faults it does report. -/
theorem record_again (H : History p h g) (hmem : (d, r) ∈ h) (hs : s.graph = g) :
    (record p d s).2.graph = g ∧ (∀ r' s', record p d s = (.ok r', s') → r' = r) ∧
      (s.Faultless → ∃ s', record p d s = (.ok r, s')) := by
  have hr : r = recorded p d := H.reported hmem
  refine ⟨?_, fun r' s' hrun => ?_, fun hfaultless => ?_⟩
  · have hsaid : ∀ k, Says p d k → s.graph.Has k := fun k hk => by
      rw [hs, H.has_iff]
      exact ⟨d, r, hmem, hk⟩
    rw [graph_record_eq_self hsaid, hs]
  · rw [hr]
    exact ((record_performs p d).of_ok hrun).1
  · rw [hr]
    exact (record_performs p d).succeeds hfaultless

/-- A memo that mentions a person under two casings, and a place. -/
def memo : Document where
  id := "memo"
  metadata := [("title", "Plan")]
  entities := [⟨⟨"Ada", "Person"⟩, none, 0.9, none, none⟩, ⟨⟨"ADA", "Skill"⟩, none, 0.8, none, none⟩,
    ⟨⟨"Berlin", "Location"⟩, some "City", 0.9, some 4, some 6⟩]

/-- A letter that mentions the place of the memo under another category. -/
def letter : Document where
  id := "letter"
  metadata := []
  entities := [⟨⟨"berlin", "Organization"⟩, none, 0.9, none, none⟩]

lemma confident_letter :
    Entity.confident (Policy.threshold {}) letter.entities = letter.entities :=
  List.filter_eq_self.mpr (by decide +kernel)

/-- The memo is recorded again after the letter, and then once more. -/
theorem record_again_of_memo_letter_memo :
    ∃ g, History {} [(memo, recorded {} memo), (letter, recorded {} letter),
        (memo, recorded {} memo)] g ∧
      (record {} memo { graph := g }).2.graph = g ∧
      ∃ s', record {} memo { graph := g } = (.ok (recorded {} memo), s') := by
  obtain ⟨g, H⟩ := History.nil.exists_append [memo, letter, memo]
  have hfaultless : ({ graph := g } : Session).Faultless := fun f hf => absurd hf (by simp)
  obtain ⟨hsame, -, hreports⟩ := H.record_again (d := memo) (s := { graph := g })
    List.mem_cons_self rfl
  exact ⟨g, H, hsame, hreports hfaultless⟩

/-- Two histories of the same documents lead to the same vertices and edges. -/
lemma has_iff_of_same_documents (H : History p h g) (H' : History p h' g')
    (hsame : ∀ d, (∃ r, (d, r) ∈ h) ↔ ∃ r, (d, r) ∈ h') : g.Has k ↔ g'.Has k := by
  rw [H.has_iff, H'.has_iff]
  refine exists_congr fun d => ?_
  rw [exists_and_right, exists_and_right, hsame d]

/-- **Contents of the graph of a history**: the vertices are the documents and their confident
mentions; the edges are the appearances of these mentions and the relationships of every two
entities of a document, each represented by its first confident mention, except those that merely
occur together when these are not wanted. Nothing is there twice, and neither the order nor the
repetition of the documents matters. -/
theorem graph_contents (H : History p h g) :
    (∀ id, id ∈ g.vertexIds ↔ ∃ d r, (d, r) ∈ h ∧
      (id = d.id ∨ ∃ e ∈ d.entities, p.threshold ≤ e.confidence ∧ id = e.id)) ∧
    (∀ source target label, (source, target, label) ∈ g.edgeKeys ↔ ∃ d r, (d, r) ∈ h ∧
      ((∃ e ∈ d.entities, p.threshold ≤ e.confidence ∧
          (source, target, label) = (e.id, d.id, Relationship.appearsIn)) ∨
        ∃ a b r, Entity.IsFirst (Entity.confident p.threshold d.entities) a ∧
          Entity.IsFirst (Entity.confident p.threshold d.entities) b ∧ a.id ≠ b.id ∧
          Relationship.resolve a.toMention b.toMention = r ∧
          (r.label = Relationship.coOccurs → p.persistGeneric = true) ∧
          (source, target, label) = (r.source.id, r.target.id, r.label))) ∧
    g.vertexIds.Nodup ∧ g.edgeKeys.Nodup ∧
    ∀ h' g', History p h' g' → (∀ d, (∃ r, (d, r) ∈ h) ↔ ∃ r, (d, r) ∈ h') →
      g.vertexIds.Perm g'.vertexIds ∧ g.edgeKeys.Perm g'.edgeKeys := by
  refine ⟨fun id => ?_, fun source target label => ?_, H.simple.vertices, H.simple.edges,
    fun h' g' H' hsame => ⟨?_, ?_⟩⟩
  · simp only [← says_vertex_iff]
    exact H.has_iff (k := .vertex id)
  · simp only [← says_edge_iff]
    exact H.has_iff (k := .edge source target label)
  · rw [List.perm_ext_iff_of_nodup H.simple.vertices H'.simple.vertices]
    exact fun id => H.has_iff_of_same_documents (k := .vertex id) H' hsame
  · rw [List.perm_ext_iff_of_nodup H.simple.edges H'.simple.edges]
    exact fun (source, target, label) =>
      H.has_iff_of_same_documents (k := .edge source target label) H' hsame

/-- The letter and the memo lead to the same graph in either order, and the memo is in it. -/
theorem graph_contents_of_memo_and_letter :
    ∃ g g', History {} [(memo, recorded {} memo), (letter, recorded {} letter)] g ∧
      History {} [(letter, recorded {} letter), (memo, recorded {} memo)] g' ∧
      "memo" ∈ g.vertexIds ∧ g.vertexIds.Perm g'.vertexIds ∧ g.edgeKeys.Perm g'.edgeKeys := by
  obtain ⟨g, H⟩ := History.nil.exists_append [memo, letter]
  obtain ⟨g', H'⟩ := History.nil.exists_append [letter, memo]
  obtain ⟨hvertices, -, -, -, hsame⟩ := H.graph_contents
  refine ⟨g, g', H, H', ?_, hsame _ g' H' fun d => ?_⟩
  · exact (hvertices "memo").mpr ⟨memo, _, List.mem_cons_self, .inl rfl⟩
  · simp only [List.nil_append, List.map_cons, List.map_nil, List.mem_cons, List.not_mem_nil,
      or_false]
    exact exists_congr fun r => or_comm

end History

end EntityGraph.Recording
