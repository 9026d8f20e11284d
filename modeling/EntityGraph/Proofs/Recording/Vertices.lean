import EntityGraph.Proofs.Graph.Reading
import EntityGraph.Proofs.Recording.Attempts
/-!
The vertices of the graph of a history.

The recordings of a history are one long list of writes, each of which comes after its end points.
So every vertex has been made by the first write with its id.

* `History.grows`: the graph of a history has grown by first writes.
* `firstWrite_entity`, `firstWrite_document`: which write comes first, provided that no document has
  the identity of an entity as its id.
* `History.vertex_cases`: every vertex stands for an entity, as its first mention has left it, or
  for a document, as the first document with its id has left it. `History.entityVertex_of_labelled`
  and `History.documentVertex_of_labelled` tell the two apart by the label.
-/

namespace EntityGraph

/-- The vertex of an entity, made from one of its mentions. -/
def entityVertex (e : Entity) (time : String) : Vertex :=
  ⟨e.id, .str entityLabel, Traversal.present (Recording.entityProperties e time)⟩

/-- The vertex of a document. -/
def documentVertex (d : Document) (time : String) : Vertex :=
  ⟨d.id, .str documentLabel,
    Traversal.present (Recording.documentProperties d.metadata.toFields time)⟩

@[simp] lemma isEntity_entityVertex (e : Entity) (time : String) :
    (entityVertex e time).isEntity = true := rfl

@[simp] lemma isEntity_documentVertex (d : Document) (time : String) :
    (documentVertex d time).isEntity = false := by
  show (some documentLabel == some entityLabel) = false
  decide

@[simp] lemma isDocument_entityVertex (e : Entity) (time : String) :
    (entityVertex e time).isDocument = false := by
  show (some entityLabel == some documentLabel) = false
  decide

@[simp] lemma isDocument_documentVertex (d : Document) (time : String) :
    (documentVertex d time).isDocument = true := rfl

/-- No property of an entity can hide its id. -/
lemma id_not_mem_entityVertex (e : Entity) (time : String) :
    "id" ∉ (entityVertex e time).properties.map Prod.fst := by
  intro hmem
  obtain ⟨⟨key, value⟩, hfield, rfl⟩ := List.mem_map.mp hmem
  have hin := (List.mem_filter.mp hfield).1
  simp [Recording.entityProperties] at hin

/-- No metadata can hide the id of a document. -/
lemma id_not_mem_documentVertex (d : Document) (time : String) :
    "id" ∉ (documentVertex d time).properties.map Prod.fst := by
  intro hmem
  obtain ⟨⟨key, value⟩, hfield, rfl⟩ := List.mem_map.mp hmem
  rcases List.mem_append.mp (List.mem_filter.mp hfield).1 with hin | hin
  · have hallowed := (List.mem_filter.mp hin).2
    exact absurd hallowed (by simp [Recording.reservedKeys])
  · simp at hin

/-- Metadata are texts, so that all properties of a document are written. -/
lemma properties_documentVertex (d : Document) (time : String) :
    (documentVertex d time).properties
      = Recording.documentProperties d.metadata.toFields time := by
  refine List.filter_eq_self.mpr fun field hfield => ?_
  rcases List.mem_append.mp hfield with hin | hin
  · obtain ⟨⟨k, s⟩, -, rfl⟩ := List.mem_map.mp (List.mem_filter.mp hin).1
    rfl
  · rcases List.mem_cons.mp hin with rfl | hin
    · rfl
    · rcases List.mem_pair.mp hin with rfl | rfl <;> rfl

namespace Recording

variable {p : Policy} {d : Document} {r : Recorded} {g : Graph} {h : List (Document × Recorded)}
  {e : Entity} {id : String} {v : Vertex}

/-- No document has the identity of an entity as its id. -/
def IdsApart (p : Policy) (h : List (Document × Recorded)) : Prop :=
  ∀ x ∈ h, ∀ e ∈ mentions p h, x.1.id ≠ e.id

/-- Documents whose ids do not begin as identities do are told apart from entities. -/
lemma idsApart_of_not_prefix (hids : ∀ x ∈ h, ¬ "ent-".toList <+: x.1.id.toList) :
    IdsApart p h :=
  fun x hx _ _ => ne_vertexId (hids x hx)

/-- All writes of a history. -/
def historyWrites (p : Policy) (h : List (Document × Recorded)) : List Write :=
  h.flatMap fun x => writes p x.1

/-- **The graph of a history has grown by first writes.** -/
lemma History.grows (H : History p h g) : Graph.empty.Grows (historyWrites p h) g := by
  have hhas : ∀ {h g}, History p h g → ∀ w ∈ historyWrites p h, g.Has w.key := by
    intro h g H w hw
    obtain ⟨⟨d, r⟩, hmem, hw⟩ := List.mem_flatMap.mp hw
    exact H.has_iff.mpr ⟨d, r, hmem, key_mem_writes_iff.mp (List.mem_map_of_mem hw)⟩
  induction H with
  | nil => exact .refl _ _
  | @extend h g d r s s' past hs hrun ih =>
      obtain ⟨-, hgraph, -, -⟩ := (record_performs p d).of_ok hrun
      have hgrown := (grounded_stamp p d s.clock).grows (by simp) ih (hhas past)
      rw [Clock.map_fst_stamp, ← hs, ← hgraph] at hgrown
      rwa [historyWrites, List.flatMap_append, List.flatMap_singleton]

/-! ### Which write comes first -/

/-- Among the writes of a document, the first one for an entity is that of its first mention. -/
lemma firstWrite_writes_entity (hid : d.id ≠ id) : firstWrite (writes p d) (.vertex id)
    = ((Entity.confident p.threshold d.entities).find? fun e => e.id == id).map entityWrite := by
  have hmentions : ∀ es : List Entity,
      firstWrite (es.flatMap fun e => [entityWrite e, appearanceWrite d.id e]) (.vertex id)
        = (es.find? fun e => e.id == id).map entityWrite := by
    intro es
    induction es with
    | nil => rfl
    | cons e es ih =>
        rw [List.flatMap_cons, List.cons_append, List.singleton_append, firstWrite]
        by_cases heq : e.id = id
        · rw [List.find?_cons_of_pos (by simp [entityWrite, Write.key, heq]),
            List.find?_cons_of_pos (by simpa using heq), Option.map_some]
        · rw [List.find?_cons_of_neg (by simp [entityWrite, Write.key, heq]),
            List.find?_cons_of_neg (by simp [appearanceWrite, Write.key]),
            List.find?_cons_of_neg (by simpa using heq)]
          exact ih
  rw [writes, firstWrite, List.find?_cons_of_neg (by simpa [documentWrite, Write.key] using hid),
    List.find?_append]
  refine (congrArg₂ Option.or (hmentions (firstMentions p d)) (List.find?_eq_none.mpr ?_)).trans ?_
  · -- relationships are no vertices
    intro w hw
    obtain ⟨⟨a, b⟩, -, hw⟩ := List.mem_flatMap.mp hw
    obtain ⟨-, rfl⟩ := (mem_relationshipWrites_iff rfl).mp hw
    simp [Write.key]
  · rw [Option.or_none, firstMentions, Entity.distinct, Entity.find?_distinctFrom List.not_mem_nil]

/-- The first write for an entity is that of its first mention. -/
lemma firstWrite_entity (hids : IdsApart p h) (he : e ∈ mentions p h) :
    firstWrite (historyWrites p h) (.vertex e.id)
      = ((mentions p h).find? fun x => x.id == e.id).map entityWrite := by
  have hdocs : ∀ x ∈ h, x.1.id ≠ e.id := fun x hx => hids x hx e he
  rw [firstWrite, historyWrites, mentions, List.find?_flatMap, List.find?_flatMap,
    List.map_findSome?]
  clear hids he
  induction h with
  | nil => rfl
  | cons x h ih =>
      have hfirst := firstWrite_writes_entity (p := p) (hdocs x List.mem_cons_self)
      rw [firstWrite] at hfirst
      rw [List.findSome?_cons, List.findSome?_cons, hfirst,
        ih fun y hy => hdocs y (List.mem_cons_of_mem x hy)]
      rfl

/-- If nothing mentions an entity with an id, the first write of a vertex with this id is that of
the first document with it. -/
lemma firstWrite_of_not_mentioned (hno : ∀ e ∈ mentions p h, e.id ≠ id) :
    firstWrite (historyWrites p h) (.vertex id)
      = (h.find? fun x => x.1.id == id).map fun x => documentWrite x.1 := by
  rw [firstWrite, historyWrites, List.find?_flatMap]
  induction h with
  | nil => rfl
  | cons x h ih =>
      have hrest : ∀ e ∈ mentions p h, e.id ≠ id := fun e he =>
        hno e (List.mem_append_right _ he)
      rw [List.findSome?_cons]
      by_cases heq : x.1.id = id
      · subst heq
        have hfirst := firstWrite_document (p := p) (d := x.1)
        rw [firstWrite] at hfirst
        rw [hfirst, List.find?_cons_of_pos (by simp), Option.map_some]
      · have hnone : (Entity.confident p.threshold x.1.entities).find? (fun e => e.id == id)
            = none :=
          List.find?_eq_none.mpr fun e he => by simpa using hno e (List.mem_append_left _ he)
        have hfirst := firstWrite_writes_entity (p := p) heq
        rw [firstWrite, hnone, Option.map_none] at hfirst
        rw [hfirst, List.find?_cons_of_neg (by simpa using heq)]
        exact ih hrest

/-- **Every vertex** stands for an entity, as its first mention has left it, or for a document, as
the first document with its id has left it. -/
theorem History.vertex_cases (H : History p h g) (hids : IdsApart p h) (hv : v ∈ g.vertices) :
    (∃ e time, Entity.IsFirst (mentions p h) e ∧ v = entityVertex e time) ∨
    ∃ x time, h.find? (fun x => x.1.id == v.id) = some x ∧ v = documentVertex x.1 time := by
  have hmem : Element.vertex v ∈ g.elements := List.mem_append_left _ (List.mem_map_of_mem hv)
  obtain ⟨w, time, number, hfirst, hmade⟩ := H.grows.make_of_mem hmem
  rw [Element.key] at hfirst
  by_cases hmentioned : ∃ e ∈ mentions p h, e.id = v.id
  · obtain ⟨e, he, hid⟩ := hmentioned
    rw [← hid, firstWrite_entity hids he] at hfirst
    obtain ⟨e', hfind, rfl⟩ := Option.map_eq_some_iff.mp hfirst
    exact .inl ⟨e', time, (Entity.find?_eq_some_iff.mp hfind).1, Element.vertex.inj hmade⟩
  · rw [firstWrite_of_not_mentioned fun e he hid => hmentioned ⟨e, he, hid⟩] at hfirst
    obtain ⟨x, hfind, rfl⟩ := Option.map_eq_some_iff.mp hfirst
    exact .inr ⟨x, time, hfind, Element.vertex.inj hmade⟩

/-- The vertex of an entity that is mentioned. -/
lemma History.exists_entity_vertex (H : History p h g) (hids : IdsApart p h)
    (he : e ∈ mentions p h) :
    ∃ first time, Entity.IsFirst (mentions p h) first ∧ first.id = e.id ∧
      entityVertex first time ∈ g.vertices := by
  obtain ⟨d, r, hmem, hin, hconfident⟩ := mem_mentions_iff.mp he
  have hhas : g.Has (.vertex e.id) := H.has_iff.mpr ⟨d, r, hmem, .entity hin hconfident⟩
  obtain ⟨v, hv, hid⟩ := Graph.exists_mem_vertices hhas
  rcases H.vertex_cases hids hv with ⟨first, time, hfirst, rfl⟩ | ⟨x, time, hfind, rfl⟩
  · exact ⟨first, time, hfirst, hid, hv⟩
  · exact absurd hid (hids x (List.mem_of_find?_eq_some hfind) e he)

/-- The vertex of a document that was recorded. -/
lemma History.exists_document_vertex (H : History p h g) (hids : IdsApart p h)
    (hmem : (d, r) ∈ h) : ∃ v ∈ g.labelled documentLabel, v.id = d.id := by
  have hhas : g.Has (.vertex d.id) := H.has_iff.mpr ⟨d, r, hmem, .document⟩
  obtain ⟨v, hv, hid⟩ := Graph.exists_mem_vertices hhas
  refine ⟨v, List.mem_filter.mpr ⟨hv, ?_⟩, hid⟩
  rcases H.vertex_cases hids hv with ⟨first, time, hfirst, rfl⟩ | ⟨x, time, -, rfl⟩
  · exact absurd hid.symm (hids (d, r) hmem first hfirst.mem)
  · exact isDocument_documentVertex x.1 time

/-- What is labelled as an entity has been left by its first mention. -/
lemma History.entityVertex_of_labelled (H : History p h g) (hids : IdsApart p h)
    (hv : v ∈ g.labelled entityLabel) :
    ∃ e time, Entity.IsFirst (mentions p h) e ∧ v = entityVertex e time := by
  obtain ⟨hvertex, hentity⟩ := List.mem_filter.mp hv
  refine (H.vertex_cases hids hvertex).resolve_right ?_
  rintro ⟨x, time, -, rfl⟩
  have hdocument := isEntity_documentVertex x.1 time
  rw [Vertex.isEntity, hentity] at hdocument
  exact absurd hdocument (by decide)

/-- What is labelled as a document has been left by the first document with its id. -/
lemma History.documentVertex_of_labelled (H : History p h g) (hids : IdsApart p h)
    (hv : v ∈ g.labelled documentLabel) :
    ∃ x time, h.find? (fun x => x.1.id == v.id) = some x ∧ v = documentVertex x.1 time := by
  obtain ⟨hvertex, hdocument⟩ := List.mem_filter.mp hv
  refine (H.vertex_cases hids hvertex).resolve_left ?_
  rintro ⟨e, time, -, rfl⟩
  have hentity := isDocument_entityVertex e time
  rw [Vertex.isDocument, hdocument] at hentity
  exact absurd hentity (by decide)

/-- There are no more documents in the graph than have been recorded. -/
lemma History.length_labelled_le (H : History p h g) (hids : IdsApart p h) :
    (g.labelled documentLabel).length ≤ h.length := by
  have hnodup : ((g.labelled documentLabel).map Vertex.id).Nodup :=
    H.simple.vertices.sublist (List.filter_sublist.map Vertex.id)
  have hsubset : (g.labelled documentLabel).map Vertex.id ⊆ h.map fun x => x.1.id := by
    intro id hid
    obtain ⟨v, hv, rfl⟩ := List.mem_map.mp hid
    obtain ⟨x, time, hfind, rfl⟩ := H.documentVertex_of_labelled hids hv
    exact List.mem_map.mpr ⟨x, List.mem_of_find?_eq_some hfind, rfl⟩
  have hle := (hnodup.subperm hsubset).length_le
  rwa [List.length_map, List.length_map] at hle

end Recording

end EntityGraph
