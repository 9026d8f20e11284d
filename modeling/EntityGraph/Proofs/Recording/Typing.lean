import EntityGraph.Proofs.Graph.Execution
import EntityGraph.Proofs.Recording.Attempts
/-!
Which kinds of vertices the edges join.

Documents and entities share one space of ids, and a vertex has the label of whoever wrote it first.
So the kinds are right as long as no document has the identity of an entity that is mentioned
somewhere.

* `Recordings`: recordings one after the other, successful or not, that have led from the empty
  graph to a graph.
* `Shared`: an id is both that of a document and that of an entity mentioned with enough confidence.
* `WellTyped`: entities appear in documents, relationships join two entities, and what was recorded
  has the vertex of a document, apart from some ids.
* `Recordings.vertex_cases`, `Recordings.edge_cases`: who has made a vertex or an edge.
* `Recordings.wellTyped`: the kinds are right apart from shared ids, and wrong as soon as two
  successful recordings share one.
-/

namespace EntityGraph

namespace Graph

variable {g : Graph} {x : Element} {id label label' : String}

/-- The vertex with a given id has a given label. -/
def IsLabelled (g : Graph) (id label : String) : Prop :=
  ∃ v ∈ g.vertices, v.id = id ∧ v.label = .str label

/-- A vertex has one label. -/
lemma Simple.label_eq (h : g.Simple) (hl : g.IsLabelled id label) (hl' : g.IsLabelled id label') :
    label = label' := by
  obtain ⟨v, hv, hid, hlabel⟩ := hl
  obtain ⟨v', hv', hid', hlabel'⟩ := hl'
  obtain rfl := List.inj_on_of_nodup_map h.vertices hv hv' (hid.trans hid'.symm)
  exact Value.str.inj (hlabel.symm.trans hlabel')

/-- What is there after writes was there before them or was made by one of them. -/
lemma mem_elements_writeAll {ops : List (Write × String)} (h : x ∈ (g.writeAll ops).elements) :
    x ∈ g.elements ∨ ∃ op ∈ ops, ∃ number, x = op.1.make op.2 number := by
  induction ops generalizing g with
  | nil => exact .inl h
  | cons op ops ih =>
      rw [writeAll_cons] at h
      rcases ih h with h | ⟨op', hop', hmade⟩
      · rcases write_cases g op.1 op.2 with hsame | ⟨-, -, number, hperm⟩
        · rw [hsame] at h
          exact .inl h
        · rcases List.mem_append.mp (hperm.subset h) with h | h
          · exact .inl h
          · exact .inr ⟨op, List.mem_cons_self, number, List.mem_singleton.mp h⟩
      · exact .inr ⟨op', List.mem_cons_of_mem op hop', hmade⟩

lemma WellFormed.writeAll (h : g.WellFormed) (ops : List (Write × String)) :
    (g.writeAll ops).WellFormed := by
  induction ops generalizing g with
  | nil => exact h
  | cons op ops ih =>
      obtain ⟨w, time⟩ := op
      obtain ⟨rows, hrun⟩ := Action.graph_execute_write g w time
      exact ih ((execute_carries hrun).adds.wellFormed h)

end Graph

namespace Recording

variable {p : Policy} {d : Document} {g : Graph} {s : Session} {x : Element} {id : String}

/-- What is there after a recording was there before it or was made by one of its writes. -/
lemma mem_elements_record (h : x ∈ (record p d s).2.graph.elements) :
    x ∈ s.graph.elements ∨ ∃ w ∈ writes p d, ∃ time number, x = w.make time number := by
  obtain ⟨ops, hsub, hgraph⟩ := (record_performs p d).made s
  rw [hgraph] at h
  refine (Graph.mem_elements_writeAll h).imp_right ?_
  rintro ⟨op, hop, number, rfl⟩
  exact ⟨op.1, hsub.subset (List.mem_map_of_mem hop), op.2, number, rfl⟩

/-- A recording that was asked for, and what it returned. -/
structure Call where
  policy : Policy
  document : Document
  result : Except Failure Recorded

variable {cs : List Call} {c c' : Call}

/-- Recordings that were asked for one after the other, starting from the empty graph, and the graph
that they have led to. Any of them may have failed half-way, and between two of them everything but
the graph may change. -/
inductive Recordings : List Call → Graph → Prop where
  | nil : Recordings [] .empty
  | next {cs : List Call} {s : Session} (past : Recordings cs s.graph) (p : Policy)
      (d : Document) : Recordings (cs ++ [⟨p, d, (record p d s).1⟩]) (record p d s).2.graph

/-- An id is that of a document, and that of an entity which is mentioned with enough confidence. -/
def Shared (cs : List Call) (id : String) : Prop :=
  (∃ c ∈ cs, c.document.id = id) ∧ ∃ c ∈ cs, Mentions c.policy c.document id

/-- Vertices and edges are of the right kinds, as far as no exempt id is concerned. -/
structure WellTyped (exempt : String → Prop) (cs : List Call) (g : Graph) : Prop where
  /-- Entities appear in documents. -/
  appearance : ∀ e ∈ g.edges, e.label = Relationship.appearsIn →
    (g.IsLabelled e.source entityLabel ∨ exempt e.source) ∧
      (g.IsLabelled e.target documentLabel ∨ exempt e.target)
  /-- All other edges join two entities. -/
  relationship : ∀ e ∈ g.edges, e.label ≠ Relationship.appearsIn → e.source ≠ e.target ∧
    (g.IsLabelled e.source entityLabel ∨ exempt e.source) ∧
      (g.IsLabelled e.target entityLabel ∨ exempt e.target)
  /-- What was recorded has the vertex of a document. -/
  document : ∀ c ∈ cs, (∃ r, c.result = .ok r) →
    g.IsLabelled c.document.id documentLabel ∨ exempt c.document.id

/-- To exempt more ids is to say less. -/
lemma WellTyped.mono {exempt exempt' : String → Prop} (h : WellTyped exempt cs g)
    (hexempt : ∀ id, exempt id → exempt' id) : WellTyped exempt' cs g where
  appearance e he hlabel :=
    (h.appearance e he hlabel).imp (Or.imp_right (hexempt _)) (Or.imp_right (hexempt _))
  relationship e he hlabel := (h.relationship e he hlabel).imp_right
    (And.imp (Or.imp_right (hexempt _)) (Or.imp_right (hexempt _)))
  document c hc hr := (h.document c hc hr).imp_right (hexempt _)

/-- Documents whose ids do not begin as the identities of entities do share none with them. -/
lemma not_shared_of_not_prefix
    (h : ∀ c ∈ cs, ¬ "ent-".toList <+: c.document.id.toList) (id : String) : ¬ Shared cs id := by
  rintro ⟨⟨c, hc, rfl⟩, c', -, e, -, hid⟩
  exact ne_vertexId (h c hc) hid.symm

namespace Recordings

/-- Every recording can be followed by one that succeeds. -/
lemma exists_next (R : Recordings cs g) (p : Policy) (d : Document) :
    ∃ g', Recordings (cs ++ [⟨p, d, .ok (recorded p d)⟩]) g' := by
  have R' : Recordings cs ({ graph := g } : Session).graph := R
  obtain ⟨s', hrun⟩ := (record_performs p d).succeeds (s := { graph := g }) (.of_eq_nil rfl)
  have h := R'.next p d
  rw [hrun] at h
  exact ⟨_, h⟩

lemma wellFormed (R : Recordings cs g) : g.WellFormed := by
  induction R with
  | nil => exact .empty
  | @next cs s past p d ih =>
      obtain ⟨ops, -, hgraph⟩ := (record_performs p d).made s
      rw [hgraph]
      exact ih.writeAll ops

/-- Everything was made by a write of one of the documents. -/
lemma element_cases (R : Recordings cs g) (hx : x ∈ g.elements) :
    ∃ c ∈ cs, ∃ w ∈ writes c.policy c.document, ∃ time number, x = w.make time number := by
  induction R with
  | nil => exact absurd hx List.not_mem_nil
  | @next cs s past p d ih =>
      rcases mem_elements_record hx with hx | hmade
      · obtain ⟨c, hc, hmade⟩ := ih hx
        exact ⟨c, List.mem_append_left _ hc, hmade⟩
      · exact ⟨_, List.mem_append_right _ (List.mem_singleton_self _), hmade⟩

lemma mentions_of_mem_firstMentions {e : Entity} (he : e ∈ firstMentions p d) :
    Mentions p d e.id :=
  ⟨e, mem_confident_iff.mpr (of_mem_firstMentions he), rfl⟩

/-- **Who has made a vertex**: a document with this id, or one that mentions the entity. -/
theorem vertex_cases (R : Recordings cs g) {v : Vertex} (hv : v ∈ g.vertices) :
    ∃ c ∈ cs, (v.id = c.document.id ∧ v.label = .str documentLabel) ∨
      (Mentions c.policy c.document v.id ∧ v.label = .str entityLabel) := by
  have hx : Element.vertex v ∈ g.elements := List.mem_append_left _ (List.mem_map_of_mem hv)
  obtain ⟨c, hc, w, hw, time, number, heq⟩ := R.element_cases hx
  refine ⟨c, hc, ?_⟩
  rcases mem_writes_iff.mp hw with rfl | ⟨e, he, rfl | rfl⟩ | ⟨a, b, -, hrel⟩
  · obtain rfl := Element.vertex.inj heq
    exact .inl ⟨rfl, rfl⟩
  · obtain rfl := Element.vertex.inj heq
    exact .inr ⟨mentions_of_mem_firstMentions he, rfl⟩
  · exact Element.noConfusion heq
  · obtain ⟨-, rfl⟩ := (mem_relationshipWrites_iff rfl).mp hrel
    exact Element.noConfusion heq

/-- **Who has made an edge**: a document that mentions its source, and in which the source appears,
or that mentions both ends. -/
theorem edge_cases (R : Recordings cs g) {e : Edge} (he : e ∈ g.edges) :
    ∃ c ∈ cs, (e.label = Relationship.appearsIn ∧ Mentions c.policy c.document e.source ∧
        e.target = c.document.id) ∨
      (e.label ≠ Relationship.appearsIn ∧ e.source ≠ e.target ∧
        Mentions c.policy c.document e.source ∧ Mentions c.policy c.document e.target) := by
  have hx : Element.edge e ∈ g.elements := List.mem_append_right _ (List.mem_map_of_mem he)
  obtain ⟨c, hc, w, hw, time, number, heq⟩ := R.element_cases hx
  refine ⟨c, hc, ?_⟩
  rcases mem_writes_iff.mp hw with rfl | ⟨m, hm, rfl | rfl⟩ | ⟨a, b, hpair, hrel⟩
  · exact Element.noConfusion heq
  · exact Element.noConfusion heq
  · obtain rfl := Element.edge.inj heq
    exact .inl ⟨rfl, mentions_of_mem_firstMentions hm, rfl⟩
  · obtain ⟨⟨hne, -⟩, rfl⟩ := (mem_relationshipWrites_iff rfl).mp hrel
    obtain rfl := Element.edge.inj heq
    obtain ⟨ha, hb⟩ := Entity.mem_of_mem_pairs hpair
    have hma := mentions_of_mem_firstMentions ha
    have hmb := mentions_of_mem_firstMentions hb
    refine .inr ⟨Relationship.resolve_label_ne_appearsIn _ _, ?_⟩
    dsimp only
    rcases Relationship.resolve_joins a.toMention b.toMention with ⟨hs, ht⟩ | ⟨hs, ht⟩
    · rw [hs, ht]
      exact ⟨hne, hma, hmb⟩
    · rw [hs, ht]
      exact ⟨Ne.symm hne, hmb, hma⟩

/-! ### Kinds of vertices -/

/-- The vertex of an entity that is mentioned is labelled so, unless its id is shared. -/
lemma labelled_of_mentions (R : Recordings cs g) (hid : id ∈ g.vertexIds) (hc : c ∈ cs)
    (hm : Mentions c.policy c.document id) : g.IsLabelled id entityLabel ∨ Shared cs id := by
  obtain ⟨v, hv, rfl⟩ := List.mem_map.mp hid
  obtain ⟨c', hc', ⟨hdocument, -⟩ | ⟨-, hlabel⟩⟩ := R.vertex_cases hv
  · exact .inr ⟨⟨c', hc', hdocument.symm⟩, c, hc, hm⟩
  · exact .inl ⟨v, hv, rfl, hlabel⟩

/-- The vertex with the id of a document is labelled so, unless the id is shared. -/
lemma labelled_of_document (R : Recordings cs g) (hc : c ∈ cs)
    (hid : c.document.id ∈ g.vertexIds) :
    g.IsLabelled c.document.id documentLabel ∨ Shared cs c.document.id := by
  obtain ⟨v, hv, hvid⟩ := List.mem_map.mp hid
  obtain ⟨c', hc', ⟨-, hlabel⟩ | ⟨hm, -⟩⟩ := R.vertex_cases hv
  · exact .inl ⟨v, hv, hvid, hlabel⟩
  · exact .inr ⟨⟨c, hc, rfl⟩, c', hc', hvid ▸ hm⟩

/-- What a document says is there once it has been recorded. -/
lemma has_of_ok (R : Recordings cs g) (hc : c ∈ cs) {r : Recorded} (hr : c.result = .ok r) {k : Key}
    (hk : Says c.policy c.document k) : g.Has k := by
  induction R with
  | nil => exact absurd hc List.not_mem_nil
  | @next cs s past p d ih =>
      rcases List.mem_append.mp hc with hc | hc
      · exact (keeps_record p d s).has (ih hc)
      · obtain rfl := List.mem_singleton.mp hc
        have hrun : record p d s = (.ok r, (record p d s).2) := Prod.ext hr rfl
        exact (has_record_iff hrun).mpr (.inr hk)

/-- The kinds are right apart from shared ids. -/
lemma wellTyped_apart_from_shared (R : Recordings cs g) : WellTyped (Shared cs) cs g where
  appearance e he hlabel := by
    obtain ⟨hsource, htarget⟩ := R.wellFormed.closed e he
    obtain ⟨c, hc, ⟨-, hm, hdocument⟩ | ⟨hother, -⟩⟩ := R.edge_cases he
    · rw [hdocument] at htarget ⊢
      exact ⟨R.labelled_of_mentions hsource hc hm, R.labelled_of_document hc htarget⟩
    · exact absurd hlabel hother
  relationship e he hlabel := by
    obtain ⟨hsource, htarget⟩ := R.wellFormed.closed e he
    obtain ⟨c, hc, ⟨happears, -⟩ | ⟨-, hne, hms, hmt⟩⟩ := R.edge_cases he
    · exact absurd happears hlabel
    · exact ⟨hne, R.labelled_of_mentions hsource hc hms, R.labelled_of_mentions htarget hc hmt⟩
  document c hc hr := by
    obtain ⟨r, hr⟩ := hr
    exact R.labelled_of_document hc (R.has_of_ok (k := .vertex c.document.id) hc hr .document)

/-- Two successful recordings that share an id leave a vertex or an edge of the wrong kind: the
vertex has one label, but should have both. -/
lemma not_wellTyped_of_shared (R : Recordings cs g) (hc : c ∈ cs) (hc' : c' ∈ cs) {r r' : Recorded}
    (hr : c.result = .ok r) (hr' : c'.result = .ok r')
    (hm : Mentions c'.policy c'.document c.document.id) : ¬ WellTyped (fun _ => False) cs g := by
  intro h
  have hdocument := (h.document c hc ⟨r, hr⟩).resolve_right not_false
  have happears : g.Has (.edge c.document.id c'.document.id Relationship.appearsIn) :=
    R.has_of_ok hc' hr' (says_appearance_iff.mpr ⟨rfl, hm⟩)
  obtain ⟨e, he, heq⟩ := List.mem_map.mp happears
  obtain ⟨hsource, -, hlabel⟩ := by simpa using heq
  have hentity := (h.appearance e he hlabel).1.resolve_right not_false
  rw [hsource] at hentity
  exact absurd (R.wellFormed.label_eq hdocument hentity) (by decide)

/-- **Kinds of vertices.** Whatever has been recorded, successfully or not: entities appear in
documents, all other edges join two distinct entities, and what was recorded successfully has the
vertex of a document, unless the id in question is shared by a document and a mention. As soon as
two successful recordings share an id, one of these fails. -/
theorem wellTyped (R : Recordings cs g) :
    WellTyped (Shared cs) cs g ∧
    ∀ c ∈ cs, ∀ c' ∈ cs, ∀ r r', c.result = .ok r → c'.result = .ok r' →
      Mentions c'.policy c'.document c.document.id → ¬ WellTyped (fun _ => False) cs g :=
  ⟨R.wellTyped_apart_from_shared, fun _ hc _ hc' _ _ hr hr' hm =>
    R.not_wellTyped_of_shared hc hc' hr hr' hm⟩

/-- The letter is recorded in spite of an attempt that has failed, and the memo after it. -/
theorem wellTyped_of_interrupted_letter :
    ∃ cs g, Recordings cs g ∧ cs.map Call.document = [History.letter, History.letter, History.memo] ∧
      (∃ e, cs.head?.map Call.result = some (.error e)) ∧ WellTyped (fun _ => False) cs g := by
  have R := Recordings.nil.next (s := Attempts.interrupted) {} History.letter
  obtain ⟨g, R'⟩ := R.exists_next {} History.letter
  obtain ⟨g', R''⟩ := R'.exists_next {} History.memo
  refine ⟨_, g', R'', rfl, ⟨_, rfl⟩, R''.wellTyped.1.mono fun id hid => ?_⟩
  refine not_shared_of_not_prefix (fun c hc => ?_) id hid
  simp only [List.nil_append, List.cons_append, List.mem_cons, List.not_mem_nil, or_false] at hc
  rcases hc with rfl | rfl | rfl <;> decide

/-- A note whose id is the identity of the place that the letter mentions. -/
def note : Document where
  id := vertexId "berlin"
  metadata := []
  entities := [⟨⟨"Ada", "Person"⟩, none, 0.9, none, none⟩]

/-- **The kinds go wrong** when the letter and then the note are recorded, both successfully. -/
theorem not_wellTyped_of_letter_and_note :
    ∃ g, Recordings [⟨{}, History.letter, .ok (recorded {} History.letter)⟩,
        ⟨{}, note, .ok (recorded {} note)⟩] g ∧
      ¬ WellTyped (fun _ => False) [⟨{}, History.letter, .ok (recorded {} History.letter)⟩,
        ⟨{}, note, .ok (recorded {} note)⟩] g := by
  obtain ⟨g, R⟩ := Recordings.nil.exists_next {} History.letter
  obtain ⟨g', R'⟩ := R.exists_next {} note
  have hm : Mentions {} History.letter note.id := by
    refine ⟨⟨⟨"berlin", "Organization"⟩, none, 0.9, none, none⟩, ?_, rfl⟩
    rw [History.confident_letter]
    exact List.mem_cons_self
  exact ⟨g', R', R'.not_wellTyped_of_shared (List.mem_cons_of_mem _ List.mem_cons_self)
    List.mem_cons_self rfl rfl hm⟩

end Recordings

end Recording

end EntityGraph
