import EntityGraph.Proofs.Recording.Vertices
/-!
Which document has given a vertex or an edge its properties.

* `IsFirstWith`: an element of a list is the first one with a property.
* `History.element_cases`: every vertex and every edge was made by the first document that says that
  it is there.
* `History.entity_of_labelled`, `History.document_of_labelled`, `History.appearance_of_mem`,
  `History.relationship_seen_first`: what this means for entities, documents, appearances and
  relationships.
* `History.first_writer_wins`: the four together.
-/

namespace EntityGraph

/-- An element of a list is the first one with a property. -/
def IsFirstWith {α : Type} (P : α → Prop) (xs : List α) (x : α) : Prop :=
  ∃ before after, xs = before ++ x :: after ∧ P x ∧ ∀ y ∈ before, ¬ P y

/-- If the head of a list has the property, it is the first one. -/
lemma IsFirstWith.eq_head {α : Type} {P : α → Prop} {xs : List α} {x y : α}
    (h : IsFirstWith P (x :: xs) y) (hx : P x) : y = x := by
  obtain ⟨before, after, heq, -, hbefore⟩ := h
  cases before with
  | nil => exact (List.cons.inj heq).1.symm
  | cons z before =>
      obtain ⟨rfl, -⟩ := List.cons.inj heq
      exact absurd hx (hbefore _ List.mem_cons_self)

/-- A search ends at the first element that gives a result. -/
lemma exists_isFirstWith {α β : Type} {P : α → Prop} {f : α → Option β} {xs : List α} {b : β}
    (hP : ∀ x ∈ xs, f x = none ↔ ¬ P x) (h : xs.findSome? f = some b) :
    ∃ x, IsFirstWith P xs x ∧ f x = some b := by
  obtain ⟨before, x, after, rfl, hx, hbefore⟩ := List.findSome?_eq_some_iff.mp h
  refine ⟨x, ⟨before, after, rfl, ?_, fun y hy => ?_⟩, hx⟩
  · by_contra hnot
    have hnone := (hP x (List.mem_append_right _ List.mem_cons_self)).mpr hnot
    exact absurd (hx.symm.trans hnone) (Option.some_ne_none b)
  · exact (hP y (List.mem_append_left _ hy)).mp (hbefore y hy)

/-! ### Fields -/

lemma Fields.get?_filter (allowed : String → Bool) {key : String} (hkey : allowed key = true)
    (fields : Fields) :
    Fields.get? (fields.filter fun field => allowed field.1) key = fields.get? key := by
  induction fields with
  | nil => rfl
  | cons field fields ih =>
      by_cases hk : field.1 = key
      · rw [List.filter_cons_of_pos (by rwa [hk]), get?, get?, if_pos hk, if_pos hk]
      · rw [List.filter_cons, get?, if_neg hk, ← ih]
        split
        · rw [get?, if_neg hk]
        · rfl

/-! ### What a mention leaves -/

/-- A vertex has the properties of a mention. -/
structure Vertex.Tells (v : Vertex) (e : Entity) : Prop where
  text : v.properties.get? "text" = some (.str e.text)
  category : v.properties.get? "category" = some (.str e.category)
  subCategory : v.properties.get? "subCategory" = e.subCategory.map .str
  type : v.properties.get? "type" = some (.str e.kind)
  partitionKey : v.properties.get? "partitionKey" = some (.str (Text.lower e.category))

/-- An edge has the properties of a mention. -/
structure Edge.Tells (edge : Edge) (e : Entity) : Prop where
  confidence : edge.properties.get? "confidenceScore" = some (.float e.confidence)
  offset : edge.properties.get? "offset" = e.offset.map .int
  length : edge.properties.get? "length" = e.length.map .int

lemma entityVertex_tells (e : Entity) (time : String) : (entityVertex e time).Tells e := by
  obtain ⟨⟨text, category⟩, subCategory, confidence, offset, length⟩ := e
  cases subCategory with
  | none => exact ⟨rfl, rfl, rfl, rfl, rfl⟩
  | some s => exact ⟨rfl, rfl, rfl, rfl, rfl⟩

lemma Edge.tells_of_properties {edge : Edge} {e : Entity} {time : String}
    (h : edge.properties = Traversal.present (Recording.appearanceProperties e time)) :
    edge.Tells e := by
  obtain ⟨mention, subCategory, confidence, offset, length⟩ := e
  refine ⟨by rw [h]; rfl, ?_, ?_⟩
  · rw [h]
    cases offset <;> cases length <;> rfl
  · rw [h]
    cases offset <;> cases length <;> rfl

/-- The vertex of a document has the metadata that it may have. -/
lemma get?_documentVertex (d : Document) (time : String) {key : String}
    (hkey : key ∉ Recording.reservedKeys) :
    (documentVertex d time).properties.get? key = Fields.get? d.metadata.toFields key := by
  have hown : Fields.get? [("processedAt", .str time), ("category", .str documentLabel),
      ("partitionKey", .str documentLabel)] key = none := by
    simp only [Recording.reservedKeys, List.mem_cons, not_or] at hkey
    obtain ⟨-, -, hcategory, hpartition, hprocessed, -⟩ := hkey
    simp [Fields.get?, Ne.symm hcategory, Ne.symm hpartition, Ne.symm hprocessed]
  rw [properties_documentVertex, Recording.documentProperties, Fields.get?_append, hown,
    Option.or_none]
  exact Fields.get?_filter (fun k => !Recording.reservedKeys.contains k) (by simpa using hkey) _

namespace Recording

open Relationship

variable {p : Policy} {d : Document} {r : Recorded} {g : Graph} {h : List (Document × Recorded)}
  {x : Element} {v : Vertex} {e : Edge}

/-- The first of all mentions of an entity is the first one in the first document that mentions
it. -/
lemma exists_first_of_isFirst {m : Entity} (hm : Entity.IsFirst (mentions p h) m) :
    ∃ y, IsFirstWith (fun y => Mentions p y.1 m.id) h y ∧
      Entity.IsFirst (Entity.confident p.threshold y.1.entities) m := by
  rw [Entity.IsFirst, mentions, List.find?_flatMap] at hm
  refine exists_isFirstWith (fun y _ => ?_) hm
  simp [Mentions, List.find?_eq_none]

namespace History

/-- Every vertex and every edge was made by the first document that says that it is there. -/
lemma element_cases (H : History p h g) (hx : x ∈ g.elements) :
    ∃ y w time number, IsFirstWith (fun y => Says p y.1 x.key) h y ∧ w ∈ writes p y.1 ∧
      x = w.make time number := by
  obtain ⟨w, time, number, hfirst, hmade⟩ := H.grows.make_of_mem hx
  rw [firstWrite, historyWrites, List.find?_flatMap] at hfirst
  have hsays : ∀ y ∈ h, firstWrite (writes p y.1) x.key = none ↔ ¬ Says p y.1 x.key := by
    intro y _
    rw [firstWrite_eq_none_iff, key_mem_writes_iff]
  obtain ⟨y, hy, hw⟩ := exists_isFirstWith hsays hfirst
  exact ⟨y, w, time, number, hy, mem_of_firstWrite hw, hmade⟩

/-- Every edge is an appearance or a relationship, as the first document that says so has left
it. -/
lemma edge_cases (H : History p h g) (he : e ∈ g.edges) :
    ∃ y time, IsFirstWith (fun y => Says p y.1 (.edge e.source e.target e.label)) h y ∧
      ((∃ m ∈ firstMentions p y.1, m.id = e.source ∧
          e.properties = Traversal.present (appearanceProperties m time)) ∧ e.label = appearsIn ∨
        e.properties = Traversal.present (relationshipProperties y.1.id time) ∧
          e.label ≠ appearsIn) := by
  have hmem : Element.edge e ∈ g.elements := List.mem_append_right _ (List.mem_map_of_mem he)
  obtain ⟨y, w, time, number, hy, hw, hmade⟩ := H.element_cases hmem
  refine ⟨y, time, hy, ?_⟩
  rcases mem_writes_iff.mp hw with rfl | ⟨m, hm, rfl | rfl⟩ | ⟨a, b, -, hw⟩
  · exact absurd hmade (by simp [documentWrite, Write.make])
  · exact absurd hmade (by simp [entityWrite, Write.make])
  · obtain rfl := Element.edge.inj hmade
    exact .inl ⟨⟨m, hm, rfl, rfl⟩, rfl⟩
  · obtain ⟨-, rfl⟩ := (mem_relationshipWrites_iff rfl).mp hw
    obtain rfl := Element.edge.inj hmade
    exact .inr ⟨rfl, resolve_label_ne_appearsIn _ _⟩

/-- An entity has the properties of its first mention. -/
lemma entity_of_labelled (H : History p h g) (hids : IdsApart p h)
    (hv : v ∈ g.labelled entityLabel) :
    ∃ d r m, IsFirstWith (fun y => Mentions p y.1 v.id) h (d, r) ∧
      Entity.IsFirst (Entity.confident p.threshold d.entities) m ∧ m.id = v.id ∧ v.Tells m := by
  obtain ⟨m, time, hm, rfl⟩ := H.entityVertex_of_labelled hids hv
  obtain ⟨⟨d, r⟩, hd, hfirst⟩ := exists_first_of_isFirst hm
  exact ⟨d, r, m, hd, hfirst, rfl, entityVertex_tells m time⟩

/-- A document has the metadata of its first recording. -/
lemma document_of_labelled (H : History p h g) (hids : IdsApart p h)
    (hv : v ∈ g.labelled documentLabel) :
    ∃ d r, IsFirstWith (fun y => y.1.id = v.id) h (d, r) ∧ ∀ key ∉ reservedKeys,
      v.properties.get? key = Fields.get? d.metadata.toFields key := by
  obtain ⟨⟨d, r⟩, time, hfind, hv⟩ := H.documentVertex_of_labelled hids hv
  obtain ⟨hid, before, after, heq, hbefore⟩ := List.find?_eq_some_iff_append.mp hfind
  refine ⟨d, r, ⟨before, after, heq, by simpa using hid, fun y hy => ?_⟩, fun key hkey => ?_⟩
  · simpa using hbefore y hy
  · rw [hv]
    exact get?_documentVertex d time hkey

/-- An appearance has the properties of the first mention in the first recording of the document that
mentions the entity. -/
lemma appearance_of_mem (H : History p h g) (he : e ∈ g.edges) (hlabel : e.label = appearsIn) :
    ∃ d r m, IsFirstWith (fun y => y.1.id = e.target ∧ Mentions p y.1 e.source) h (d, r) ∧
      Entity.IsFirst (Entity.confident p.threshold d.entities) m ∧ m.id = e.source ∧
      e.Tells m := by
  obtain ⟨⟨d, r⟩, time, hfirst, ⟨⟨m, hm, hid, hproperties⟩, -⟩ | ⟨-, hno⟩⟩ := H.edge_cases he
  · simp only [hlabel, says_appearance_iff] at hfirst
    exact ⟨d, r, m, hfirst, mem_firstMentions_iff.mp hm, hid, Edge.tells_of_properties hproperties⟩
  · exact absurd hlabel hno

/-- A relationship names the first document that says that it is there. -/
lemma relationship_seen_first (H : History p h g) (he : e ∈ g.edges)
    (hlabel : e.label ≠ appearsIn) :
    ∃ d r, IsFirstWith (fun y => Says p y.1 (.edge e.source e.target e.label)) h (d, r) ∧
      e.properties.get? "firstSeenIn" = some (.str d.id) := by
  obtain ⟨⟨d, r⟩, time, hfirst, ⟨-, hno⟩ | ⟨hproperties, -⟩⟩ := H.edge_cases he
  · exact absurd hno hlabel
  · refine ⟨d, r, hfirst, ?_⟩
    rw [hproperties]
    rfl

/-- **The first writer wins**: an entity has the properties of its first confident mention in the
first document that has one; a document has the metadata of its first recording, apart from reserved
keys; an appearance has the properties of the first confident mention in the first recording of the
document that mentions the entity; and a relationship is first seen in the first document that says
that it is there. -/
theorem first_writer_wins (H : History p h g) (hids : IdsApart p h) :
    (∀ v ∈ g.labelled entityLabel, ∃ d r m, IsFirstWith (fun y => Mentions p y.1 v.id) h (d, r) ∧
      Entity.IsFirst (Entity.confident p.threshold d.entities) m ∧ m.id = v.id ∧ v.Tells m) ∧
    (∀ v ∈ g.labelled documentLabel, ∃ d r, IsFirstWith (fun y => y.1.id = v.id) h (d, r) ∧
      ∀ key ∉ reservedKeys, v.properties.get? key = Fields.get? d.metadata.toFields key) ∧
    (∀ e ∈ g.edges, e.label = appearsIn → ∃ d r m,
      IsFirstWith (fun y => y.1.id = e.target ∧ Mentions p y.1 e.source) h (d, r) ∧
      Entity.IsFirst (Entity.confident p.threshold d.entities) m ∧ m.id = e.source ∧
      e.Tells m) ∧
    ∀ e ∈ g.edges, e.label ≠ appearsIn → ∃ d r,
      IsFirstWith (fun y => Says p y.1 (.edge e.source e.target e.label)) h (d, r) ∧
      e.properties.get? "firstSeenIn" = some (.str d.id) :=
  ⟨fun _ hv => H.entity_of_labelled hids hv, fun _ hv => H.document_of_labelled hids hv,
    fun _ he hlabel => H.appearance_of_mem he hlabel,
    fun _ he hlabel => H.relationship_seen_first he hlabel⟩

/-- The place that both the letter and the memo mention is as the letter has it, in another spelling
and without a subcategory. -/
theorem first_writer_wins_of_letter_and_memo :
    ∃ g, History {} [(letter, recorded {} letter), (memo, recorded {} memo)] g ∧
      IdsApart {} [(letter, recorded {} letter), (memo, recorded {} memo)] ∧
      ∃ v ∈ g.labelled entityLabel, v.id = vertexId "berlin" ∧
        v.properties.get? "text" = some (.str "berlin") ∧
        v.properties.get? "subCategory" = none ∧
        v.properties.get? "partitionKey" = some (.str "organization") := by
  obtain ⟨g, H⟩ : ∃ g, History {} [(letter, recorded {} letter), (memo, recorded {} memo)] g :=
    History.nil.exists_append [letter, memo]
  have hids : IdsApart {} [(letter, recorded {} letter), (memo, recorded {} memo)] :=
    idsApart_of_not_prefix (by decide)
  have hmentioned : ⟨⟨"berlin", "Organization"⟩, none, 0.9, none, none⟩ ∈
      mentions {} [(letter, recorded {} letter), (memo, recorded {} memo)] := by
    rw [mentions, List.flatMap_cons, confident_letter]
    exact List.mem_append_left _ List.mem_cons_self
  obtain ⟨first, time, -, hid, hv⟩ := H.exists_entity_vertex hids hmentioned
  have hlabelled : entityVertex first time ∈ g.labelled entityLabel :=
    List.mem_filter.mpr ⟨hv, isEntity_entityVertex first time⟩
  obtain ⟨hentities, -⟩ := H.first_writer_wins hids
  obtain ⟨d, r, m, hd, hm, -, htells⟩ := hentities _ hlabelled
  have hletter : Mentions {} letter (entityVertex first time).id := by
    rw [Mentions, confident_letter]
    exact ⟨_, List.mem_cons_self, hid.symm⟩
  obtain ⟨rfl, rfl⟩ := Prod.mk.inj (hd.eq_head hletter)
  rw [confident_letter] at hm
  obtain rfl := List.mem_singleton.mp hm.mem
  exact ⟨g, H, hids, _, hlabelled, hid, htells.text, htells.subCategory, htells.partitionKey⟩

end History

end Recording

end EntityGraph
