import EntityGraph.Proofs.Recording.Vertices
/-!
The documents of the graph of a history, in their order.

* `Graph.documentIds`: the ids of the documents, in the order of their creation.
  `documentIds_write_vertex` says what a write adds to them, and `documentIds_record` what a
  recording adds.
* `recordedIds`: the ids of the recorded documents, in the order of their first recording.
* `History.documentIds_eq`: these are the documents of the graph.
-/

namespace EntityGraph

namespace Write

/-- A write of a document. -/
def IsDocument : Write → Prop
  | vertex _ label _ => label = documentLabel
  | edge .. => False

end Write

namespace Graph

variable {g : Graph} {w : Write}

/-- The ids of the documents, in the order of their creation. -/
def documentIds (g : Graph) : List String := (g.labelled documentLabel).map Vertex.id

/-- A new vertex is one more document if it is labelled so. -/
lemma documentIds_write_vertex (id label : String) (properties : String → Fields) (time : String) :
    (g.write (.vertex id label properties) time).documentIds
      = if label = documentLabel ∧ id ∉ g.vertexIds then g.documentIds ++ [id]
        else g.documentIds := by
  rw [write_vertex, upsertVertex]
  by_cases hid : id ∈ g.vertexIds
  · rw [if_pos (hasVertex_iff.mpr hid), if_neg fun h => h.2 hid]
  · rw [if_neg (by rwa [hasVertex_iff])]
    by_cases hlabel : label = documentLabel
    · rw [if_pos ⟨hlabel, hid⟩, documentIds, labelled, List.filter_append, List.map_append,
        List.filter_cons_of_pos (by simp [Vertex.hasLabel, Value.text?, hlabel])]
      rfl
    · rw [if_neg fun h => hlabel h.1, documentIds, labelled, List.filter_append,
        List.filter_cons_of_neg (by simpa [Vertex.hasLabel, Value.text?] using hlabel),
        List.filter_nil, List.append_nil]
      rfl

/-- Only writes of documents add documents. -/
lemma documentIds_write_of_not_isDocument (hw : ¬ w.IsDocument) (time : String) :
    (g.write w time).documentIds = g.documentIds := by
  cases w with
  | vertex id label properties => rw [documentIds_write_vertex, if_neg fun h => hw h.1]
  | edge label source target properties =>
      rw [write_edge, documentIds, labelled, vertices_upsertEdge]
      rfl

lemma documentIds_writeAll_of_not_isDocument {ops : List (Write × String)}
    (hops : ∀ op ∈ ops, ¬ op.1.IsDocument) : (g.writeAll ops).documentIds = g.documentIds := by
  induction ops generalizing g with
  | nil => rfl
  | cons op ops ih =>
      rw [writeAll_cons, ih fun op' hop' => hops op' (List.mem_cons_of_mem op hop'),
        documentIds_write_of_not_isDocument (hops op List.mem_cons_self)]

end Graph

namespace Recording

variable {p : Policy} {d : Document} {r : Recorded} {g : Graph} {s s' : Session} {w : Write}
  {h more : List (Document × Recorded)} {id : String}

/-- Of the writes of a document, only the first one is that of a document. -/
lemma not_isDocument_of_mem_laterWrites (hw : w ∈ laterWrites p d) : ¬ w.IsDocument := by
  obtain ⟨e, -, rfl | rfl⟩ | ⟨a, b, -, hw⟩ := mem_laterWrites_iff.mp hw
  · show ¬ entityLabel = documentLabel
    decide
  · exact not_false
  · obtain ⟨-, rfl⟩ := (mem_relationshipWrites_iff rfl).mp hw
    exact not_false

/-- **A recording adds one document** at the end, unless its id is taken. -/
lemma documentIds_record (hrun : record p d s = (.ok r, s')) :
    s'.graph.documentIds = if d.id ∈ s.graph.vertexIds then s.graph.documentIds
      else s.graph.documentIds ++ [d.id] := by
  obtain ⟨-, hgraph, -, -⟩ := (record_performs p d).of_ok hrun
  have hlater : ∀ op ∈ s.clock.tick.stamp (laterWrites p d), ¬ op.1.IsDocument := by
    intro op hop
    refine not_isDocument_of_mem_laterWrites (p := p) (d := d) ?_
    rw [← Clock.map_fst_stamp s.clock.tick (laterWrites p d)]
    exact List.mem_map_of_mem hop
  rw [hgraph, writes_eq_cons, Clock.stamp, Graph.writeAll_cons,
    Graph.documentIds_writeAll_of_not_isDocument hlater, documentWrite,
    Graph.documentIds_write_vertex]
  simp only [true_and, ite_not]

/-- The ids of the recorded documents, in the order of their first recording. -/
def recordedIds (h : List (Document × Recorded)) : List String :=
  (h.map fun x => x.1.id).eraseDups

lemma mem_recordedIds_iff : id ∈ recordedIds h ↔ ∃ d r, (d, r) ∈ h ∧ d.id = id := by
  simp only [recordedIds, List.mem_eraseDups, List.mem_map, Prod.exists]

/-- A recording adds the id of its document, unless it has been recorded before. -/
lemma recordedIds_append_singleton (h : List (Document × Recorded)) (d : Document) (r : Recorded) :
    recordedIds (h ++ [(d, r)])
      = if d.id ∈ recordedIds h then recordedIds h else recordedIds h ++ [d.id] := by
  rw [recordedIds, List.map_append, List.eraseDups_append, List.map_singleton]
  by_cases hid : d.id ∈ recordedIds h
  · have hmem : d.id ∈ h.map fun x => x.1.id := List.mem_eraseDups.mp hid
    rw [if_pos hid, List.removeAll, List.filter_cons_of_neg (by simpa using hmem)]
    simp [recordedIds]
  · have hmem : d.id ∉ h.map fun x => x.1.id := fun hmem => hid (List.mem_eraseDups.mpr hmem)
    rw [if_neg hid, List.removeAll, List.filter_cons_of_pos (by simpa using hmem)]
    simp [recordedIds, List.eraseDups_cons]

lemma IdsApart.of_append (hids : IdsApart p (h ++ more)) : IdsApart p h := by
  intro x hx e he
  refine hids x (List.mem_append_left _ hx) e ?_
  rw [mentions, List.flatMap_append]
  exact List.mem_append_left _ he

/-- The id of a document is taken if a document with this id has been recorded. -/
lemma History.id_mem_vertexIds_iff (H : History p h g) (hids : IdsApart p (h ++ [(d, r)])) :
    d.id ∈ g.vertexIds ↔ d.id ∈ recordedIds h := by
  have hhas : d.id ∈ g.vertexIds ↔ ∃ d' r', (d', r') ∈ h ∧ Says p d' (.vertex d.id) :=
    H.has_iff (k := .vertex d.id)
  rw [hhas, mem_recordedIds_iff]
  refine exists_congr fun d' => exists_congr fun r' => and_congr_right fun hmem => ?_
  rw [says_vertex_iff]
  refine ⟨fun hsaid => ?_, fun heq => .inl heq.symm⟩
  rcases hsaid with heq | ⟨e, he, hconfident, heq⟩
  · exact heq.symm
  · have hmentioned : e ∈ mentions p (h ++ [(d, r)]) :=
      mem_mentions_iff.mpr ⟨d', r', List.mem_append_left _ hmem, he, hconfident⟩
    exact absurd heq (hids (d, r) (List.mem_append_right _ List.mem_cons_self) e hmentioned)

/-- **The documents of the graph of a history** are those that were recorded, in the order of their
first recording. -/
theorem History.documentIds_eq (H : History p h g) (hids : IdsApart p h) :
    g.documentIds = recordedIds h := by
  induction H with
  | nil => rfl
  | @extend h g d r s s' past hs hrun ih =>
      rw [documentIds_record hrun, hs, ih hids.of_append, recordedIds_append_singleton]
      simp only [past.id_mem_vertexIds_iff hids]

end Recording

end EntityGraph
