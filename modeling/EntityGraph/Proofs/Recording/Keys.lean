import EntityGraph.Proofs.Entity.Distinct
import EntityGraph.Proofs.Recording.Plan
import EntityGraph.Proofs.Relationship.Labels
/-!
What a document says about the graph.

* `Says`: the vertices and edges that a document gives rise to, told by the mentions in it, without
  the order in which they are written.
* `Mentions`: the entities that a document mentions. `says_appearance_iff` says that these are the
  ones that appear in it.
* `key_mem_writes_iff`: these are the keys that the writes of the document have.
* `grounded_writes`: every edge is written after its end points.
-/

namespace EntityGraph.Recording

variable {p : Policy} {d : Document} {a b e : Entity}

/-- A document says that there is a vertex or an edge: its own vertex, the vertex and the appearance
of every confident mention, and the relationship of every two entities, each of which is represented
by its first confident mention. -/
inductive Says (p : Policy) (d : Document) : Key → Prop where
  | document : Says p d (.vertex d.id)
  | entity {e : Entity} (he : e ∈ d.entities) (hconfident : p.threshold ≤ e.confidence) :
      Says p d (.vertex e.id)
  | appearance {e : Entity} (he : e ∈ d.entities) (hconfident : p.threshold ≤ e.confidence) :
      Says p d (.edge e.id d.id Relationship.appearsIn)
  | relationship {a b : Entity} {r : Relationship.Resolved}
      (ha : Entity.IsFirst (Entity.confident p.threshold d.entities) a)
      (hb : Entity.IsFirst (Entity.confident p.threshold d.entities) b) (hne : a.id ≠ b.id)
      (hr : Relationship.resolve a.toMention b.toMention = r)
      (hlabel : r.label = Relationship.coOccurs → p.persistGeneric = true) :
      Says p d (.edge r.source.id r.target.id r.label)

lemma says_vertex_iff {id : String} :
    Says p d (.vertex id) ↔
      id = d.id ∨ ∃ e ∈ d.entities, p.threshold ≤ e.confidence ∧ id = e.id := by
  constructor
  · intro h
    cases h with
    | document => exact .inl rfl
    | entity he hconfident => exact .inr ⟨_, he, hconfident, rfl⟩
  · rintro (rfl | ⟨e, he, hconfident, rfl⟩)
    · exact .document
    · exact .entity he hconfident

lemma says_edge_iff {source target label : String} :
    Says p d (.edge source target label) ↔
      (∃ e ∈ d.entities, p.threshold ≤ e.confidence ∧
        (source, target, label) = (e.id, d.id, Relationship.appearsIn)) ∨
      ∃ a b r, Entity.IsFirst (Entity.confident p.threshold d.entities) a ∧
        Entity.IsFirst (Entity.confident p.threshold d.entities) b ∧ a.id ≠ b.id ∧
        Relationship.resolve a.toMention b.toMention = r ∧
        (r.label = Relationship.coOccurs → p.persistGeneric = true) ∧
        (source, target, label) = (r.source.id, r.target.id, r.label) := by
  constructor
  · intro h
    cases h with
    | appearance he hconfident => exact .inl ⟨_, he, hconfident, rfl⟩
    | relationship ha hb hne hr hlabel => exact .inr ⟨_, _, _, ha, hb, hne, hr, hlabel, rfl⟩
  · rintro (⟨e, he, hconfident, heq⟩ | ⟨a, b, r, ha, hb, hne, hr, hlabel, heq⟩)
    · cases heq
      exact .appearance he hconfident
    · cases heq
      exact .relationship ha hb hne hr hlabel

lemma mem_confident_iff {threshold : Float} {es : List Entity} :
    e ∈ Entity.confident threshold es ↔ e ∈ es ∧ threshold ≤ e.confidence := by
  rw [Entity.confident, List.mem_filter, decide_eq_true_iff]

/-- A document mentions an entity with enough confidence. -/
def Mentions (p : Policy) (d : Document) (id : String) : Prop :=
  ∃ e ∈ Entity.confident p.threshold d.entities, e.id = id

/-- A document says that an entity appears somewhere if this is the document itself and it mentions
the entity. -/
lemma says_appearance_iff {source target : String} :
    Says p d (.edge source target Relationship.appearsIn) ↔
      d.id = target ∧ Mentions p d source := by
  constructor
  · intro hsaid
    rcases says_edge_iff.mp hsaid with ⟨m, hm, hconfident, heq⟩ | ⟨a, b, -, -, -, -, rfl, -, heq⟩
    · obtain ⟨rfl, rfl⟩ : source = m.id ∧ target = d.id := by simpa using heq
      exact ⟨rfl, m, mem_confident_iff.mpr ⟨hm, hconfident⟩, rfl⟩
    · have hlabel := congrArg (·.2.2) heq
      exact absurd hlabel.symm (Relationship.resolve_label_ne_appearsIn _ _)
  · rintro ⟨rfl, m, hm, rfl⟩
    obtain ⟨hin, hconfident⟩ := mem_confident_iff.mp hm
    exact .appearance hin hconfident

lemma mem_firstMentions_iff :
    e ∈ firstMentions p d ↔ Entity.IsFirst (Entity.confident p.threshold d.entities) e :=
  Entity.mem_distinct_iff

lemma of_mem_firstMentions (he : e ∈ firstMentions p d) :
    e ∈ d.entities ∧ p.threshold ≤ e.confidence :=
  mem_confident_iff.mp (mem_firstMentions_iff.mp he).mem

/-- Every confident mention has a representative. -/
lemma exists_mem_firstMentions (he : e ∈ d.entities) (hconfident : p.threshold ≤ e.confidence) :
    ∃ a ∈ firstMentions p d, a.id = e.id := by
  obtain ⟨a, ha, hid⟩ := Entity.exists_isFirst (mem_confident_iff.mpr ⟨he, hconfident⟩)
  exact ⟨a, mem_firstMentions_iff.mpr ha, hid⟩

lemma mem_laterWrites_iff {w : Write} :
    w ∈ laterWrites p d ↔
      (∃ e ∈ firstMentions p d, w = entityWrite e ∨ w = appearanceWrite d.id e) ∨
      ∃ a b, (a, b) ∈ Entity.pairs (firstMentions p d) ∧
        w ∈ relationshipWrites p.persistGeneric d.id a b := by
  simp only [laterWrites, writes, List.tail_cons, List.mem_append, List.mem_flatMap, List.mem_cons,
    List.not_mem_nil, or_false, Prod.exists]

lemma mem_writes_iff {w : Write} :
    w ∈ writes p d ↔ w = documentWrite d ∨
      (∃ e ∈ firstMentions p d, w = entityWrite e ∨ w = appearanceWrite d.id e) ∨
      ∃ a b, (a, b) ∈ Entity.pairs (firstMentions p d) ∧
        w ∈ relationshipWrites p.persistGeneric d.id a b := by
  rw [writes_eq_cons, List.mem_cons, mem_laterWrites_iff]

lemma mem_relationshipWrites_iff {persistGeneric : Bool} {document : String} {w : Write}
    {r : Relationship.Resolved} (hr : Relationship.resolve a.toMention b.toMention = r) :
    w ∈ relationshipWrites persistGeneric document a b ↔
      (a.id ≠ b.id ∧ (r.label = Relationship.coOccurs → persistGeneric = true)) ∧
        w = .edge r.label r.source.id r.target.id (relationshipProperties document) := by
  have hskip : (r.isGeneric && !persistGeneric) = true
      ↔ r.label = Relationship.coOccurs ∧ persistGeneric ≠ true := by
    rw [Bool.and_eq_true, Relationship.Resolved.isGeneric, beq_iff_eq, Bool.not_eq_true',
      ne_eq, Bool.not_eq_true]
  rw [relationshipWrites, hr]
  split
  · rename_i h
    rw [hskip] at h
    refine ⟨fun hw => absurd hw List.not_mem_nil, fun hw => ?_⟩
    obtain ⟨⟨hne, hlabel⟩, -⟩ := hw
    exact (h.elim hne fun hmere => hmere.2 (hlabel hmere.1)).elim
  · rename_i h
    rw [hskip] at h
    rw [List.mem_singleton]
    refine ⟨fun hw => ⟨⟨fun heq => h (.inl heq), fun hlabel => ?_⟩, hw⟩, fun hw => hw.2⟩
    by_contra hwanted
    exact h (.inr ⟨hlabel, hwanted⟩)

/-- The relationship of a pair is the same in both orders. -/
lemma relationshipWrites_swap (persistGeneric : Bool) (document : String) (a b : Entity) :
    relationshipWrites persistGeneric document a b
      = relationshipWrites persistGeneric document b a := by
  by_cases hid : a.id = b.id
  · rw [relationshipWrites, if_pos (.inl hid), relationshipWrites, if_pos (.inl hid.symm)]
  · rw [relationshipWrites, relationshipWrites, Relationship.resolve_swap hid]
    simp only [hid, Ne.symm hid, false_or]

/-- **The keys that a document writes** are those that it says. -/
theorem key_mem_writes_iff {k : Key} : k ∈ (writes p d).map Write.key ↔ Says p d k := by
  rw [List.mem_map]
  constructor
  · rintro ⟨w, hw, rfl⟩
    obtain rfl | ⟨e, he, rfl | rfl⟩ | ⟨a, b, hpair, hw⟩ := mem_writes_iff.mp hw
    · exact .document
    · obtain ⟨hmem, hconfident⟩ := of_mem_firstMentions he
      exact .entity hmem hconfident
    · obtain ⟨hmem, hconfident⟩ := of_mem_firstMentions he
      exact .appearance hmem hconfident
    · obtain ⟨ha, hb⟩ := Entity.mem_of_mem_pairs hpair
      obtain ⟨⟨hne, hlabel⟩, rfl⟩ := (mem_relationshipWrites_iff rfl).mp hw
      exact .relationship (mem_firstMentions_iff.mp ha) (mem_firstMentions_iff.mp hb) hne rfl hlabel
  · intro hk
    cases hk with
    | document => exact ⟨documentWrite d, mem_writes_iff.mpr (.inl rfl), rfl⟩
    | entity hmem hconfident =>
        obtain ⟨a, ha, hid⟩ := exists_mem_firstMentions hmem hconfident
        refine ⟨entityWrite a, mem_writes_iff.mpr (.inr (.inl ⟨a, ha, .inl rfl⟩)), ?_⟩
        exact congrArg Key.vertex hid
    | appearance hmem hconfident =>
        obtain ⟨a, ha, hid⟩ := exists_mem_firstMentions hmem hconfident
        refine ⟨appearanceWrite d.id a, mem_writes_iff.mpr (.inr (.inl ⟨a, ha, .inr rfl⟩)), ?_⟩
        exact congrArg (Key.edge · d.id Relationship.appearsIn) hid
    | @relationship a b r ha hb hne hr hlabel =>
        let w : Write := .edge r.label r.source.id r.target.id (relationshipProperties d.id)
        have hw : w ∈ relationshipWrites p.persistGeneric d.id a b :=
          (mem_relationshipWrites_iff hr).mpr ⟨⟨hne, hlabel⟩, rfl⟩
        refine ⟨w, mem_writes_iff.mpr (.inr (.inr ?_)), rfl⟩
        rcases Entity.mem_pairs_or_swap (mem_firstMentions_iff.mpr ha)
          (mem_firstMentions_iff.mpr hb) hne with hpair | hpair
        · exact ⟨a, b, hpair, hw⟩
        · exact ⟨b, a, hpair, by rw [relationshipWrites_swap]; exact hw⟩

/-! ### Edges after their end points -/

lemma grounded_mentions {known : List String} {document : String} (es : List Entity)
    (hknown : document ∈ known) :
    Grounded known (es.flatMap fun e => [entityWrite e, appearanceWrite document e]) := by
  induction es generalizing known with
  | nil => trivial
  | cons e es ih =>
      have hdocument : document ∈ e.id :: known := List.mem_cons_of_mem e.id hknown
      exact ⟨⟨List.mem_cons_self, hdocument⟩, ih hdocument⟩

/-- The relationships of a document join entities of the document. -/
lemma ends_of_mem_relationships {persistGeneric : Bool} {document : String} {es : List Entity}
    {w : Write} (hw : w ∈ (Entity.pairs es).flatMap
      fun (a, b) => relationshipWrites persistGeneric document a b) :
    ∃ label source target properties, w = .edge label source target properties ∧
      source ∈ es.map (fun e => e.id) ∧ target ∈ es.map (fun e => e.id) := by
  obtain ⟨⟨a, b⟩, hpair, hw⟩ := List.mem_flatMap.mp hw
  obtain ⟨ha, hb⟩ := Entity.mem_of_mem_pairs hpair
  obtain ⟨-, rfl⟩ := (mem_relationshipWrites_iff rfl).mp hw
  have hida := List.mem_map_of_mem (f := fun e : Entity => e.id) ha
  have hidb := List.mem_map_of_mem (f := fun e : Entity => e.id) hb
  refine ⟨_, _, _, _, rfl, ?_⟩
  rcases Relationship.resolve_joins a.toMention b.toMention with ⟨hs, ht⟩ | ⟨hs, ht⟩
  · rw [hs, ht]
    exact ⟨hida, hidb⟩
  · rw [hs, ht]
    exact ⟨hidb, hida⟩

lemma grounded_relationships (persistGeneric : Bool) (document : String) (es : List Entity) :
    Grounded (es.map fun e => e.id) ((Entity.pairs es).flatMap
      fun (a, b) => relationshipWrites persistGeneric document a b) :=
  Grounded.of_edges fun _ hw => ends_of_mem_relationships hw

/-- **Every edge of a document is written after its end points.** -/
theorem grounded_writes (p : Policy) (d : Document) : Grounded [] (writes p d) := by
  have hmentions := grounded_mentions (firstMentions p d) (List.mem_singleton_self d.id)
  refine hmentions.append (grounded_relationships p.persistGeneric d.id (firstMentions p d)) ?_
  intro id hid
  obtain ⟨e, he, rfl⟩ := List.mem_map.mp hid
  refine .inr (List.mem_map.mpr ⟨entityWrite e, ?_, rfl⟩)
  exact List.mem_flatMap.mpr ⟨e, he, List.mem_cons_self⟩

end EntityGraph.Recording
