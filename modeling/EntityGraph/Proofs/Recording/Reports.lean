import EntityGraph.Proofs.Recording.Typing
import Mathlib.Data.Finset.Card
/-!
What a recording reports, and what it has added to the graph.

Every write adds at most one element, at the end. So what writes have added is a part of what they
have asked for, and it is enough to count the latter.

* `Graph.exists_added`: what writes add has some of their keys, in their order.
* `Recorded.entityCount`: the number of entities among the mentions of a report.
* `kinds_writes_sublist`: what the writes of a document ask for, counted by `count_asked`.
* `exists_added_record`, `stands_of_mem_persisted`, `entityCount_le_appearancesAt`: what a recording
  has added, at most and at least.
* `record_reports`: the report of a recording, beside what the recording has done to the graph.
-/

namespace EntityGraph

/-- What a key can be the key of. -/
inductive Kind where
  | vertex
  | appearance
  | relationship
  deriving DecidableEq

/-- What a key is the key of. -/
def Key.kind : Key → Kind
  | vertex _ => .vertex
  | edge _ _ label => if label = Relationship.appearsIn then .appearance else .relationship

namespace Graph

variable {g : Graph}

/-- A write adds nothing, or one element at the end, with the key of the write. -/
lemma exists_added_write (g : Graph) (w : Write) (time : String) : ∃ vs es,
    (g.write w time).vertices = g.vertices ++ vs ∧ (g.write w time).edges = g.edges ++ es ∧
    ((vs.map Element.vertex ++ es.map Element.edge).map Element.key).Sublist [w.key] := by
  cases w with
  | vertex id label properties =>
      rw [write_vertex, upsertVertex]
      split
      · exact ⟨[], [], by simp, by simp, List.nil_sublist _⟩
      · exact ⟨[_], [], rfl, by simp, .refl _⟩
  | edge label source target properties =>
      rw [write_edge, upsertEdge]
      split
      · exact ⟨[], [], by simp, by simp, List.nil_sublist _⟩
      · exact ⟨[], [_], by simp, rfl, .refl _⟩

/-- **What writes add** stands at the end, and has some of the keys of the writes, in their
order. -/
theorem exists_added (g : Graph) (ops : List (Write × String)) : ∃ vs es,
    (g.writeAll ops).vertices = g.vertices ++ vs ∧ (g.writeAll ops).edges = g.edges ++ es ∧
    (vs.map fun v => Key.vertex v.id).Sublist ((ops.map Prod.fst).map Write.key) ∧
    (es.map fun e => Key.edge e.source e.target e.label).Sublist
      ((ops.map Prod.fst).map Write.key) := by
  induction ops generalizing g with
  | nil => exact ⟨[], [], by simp, by simp, .slnil, .slnil⟩
  | cons op ops ih =>
      obtain ⟨vs, es, hvs, hes, hkeys⟩ := exists_added_write g op.1 op.2
      obtain ⟨vs', es', hvs', hes', hvkeys, hekeys⟩ := ih (g.write op.1 op.2)
      rw [List.map_append, List.map_map, List.map_map] at hkeys
      refine ⟨vs ++ vs', es ++ es', ?_, ?_, ?_, ?_⟩
      · rw [writeAll_cons, hvs', hvs, List.append_assoc]
      · rw [writeAll_cons, hes', hes, List.append_assoc]
      · rw [List.map_append]
        exact ((List.sublist_append_left _ _).trans hkeys).append hvkeys
      · rw [List.map_append]
        exact ((List.sublist_append_right _ _).trans hkeys).append hekeys

/-- The appearances that end at a vertex. -/
def appearancesAt (g : Graph) (id : String) : List Edge :=
  g.edges.filter fun e => e.isAppearance && e.target == id

/-- Where edges end at vertices, none ends at what is missing. -/
lemma appearancesAt_eq_nil {id : String} (hends : ∀ e ∈ g.edges, e.target ∈ g.vertexIds)
    (hid : id ∉ g.vertexIds) : g.appearancesAt id = [] := by
  refine List.filter_eq_nil_iff.mpr fun e he => ?_
  have hne : e.target ≠ id := fun heq => hid (heq ▸ hends e he)
  simp [hne]

end Graph

/-- The number of entities among the mentions of a report. -/
def Recorded.entityCount (r : Recorded) : ℕ := (r.persisted.map fun e => e.id).toFinset.card

lemma Entity.length_distinct (es : List Entity) :
    (distinct es).length = (es.map fun e => e.id).toFinset.card := by
  rw [← List.length_map fun e : Entity => e.id,
    ← List.toFinset_card_of_nodup (nodup_ids_distinct es)]
  refine congrArg Finset.card (Finset.ext fun id => ?_)
  rw [List.mem_toFinset, List.mem_toFinset, mem_ids_distinct_iff, List.mem_map]

namespace Recording

variable {p : Policy} {d : Document} {r : Recorded} {s s' : Session}

lemma length_firstMentions (p : Policy) (d : Document) :
    (firstMentions p d).length = (recorded p d).entityCount :=
  Entity.length_distinct _

/-! ### What a document asks for -/

/-- What writes ask for, in their order. -/
def kinds (ws : List Write) : List Kind := ws.map fun w => w.key.kind

/-- A vertex, a vertex and an appearance for each entity, and a relationship for each pair. -/
def asked (entities pairs : ℕ) : List Kind :=
  .vertex :: ((List.replicate entities [Kind.vertex, .appearance]).flatten
    ++ List.replicate pairs .relationship)

lemma count_asked (entities pairs : ℕ) (k : Kind) : (asked entities pairs).count k
    = match k with
      | .vertex => entities + 1
      | .appearance => entities
      | .relationship => pairs := by
  have hmentions : (List.replicate entities [Kind.vertex, .appearance]).flatten.count k
      = if k = .relationship then 0 else entities := by
    rw [List.count_flatten, List.map_replicate, List.sum_replicate_nat]
    cases k <;> simp
  rw [asked, List.count_cons, List.count_append, hmentions, List.count_replicate]
  cases k <;> simp

lemma kinds_mentions (document : String) (es : List Entity) :
    kinds (es.flatMap fun e => [entityWrite e, appearanceWrite document e])
      = (List.replicate es.length [.vertex, .appearance]).flatten := by
  calc kinds (es.flatMap fun e => [entityWrite e, appearanceWrite document e])
      = es.flatMap fun _ => [.vertex, .appearance] := by rw [kinds, List.map_flatMap]; rfl
    _ = (List.replicate es.length [.vertex, .appearance]).flatten := by
      rw [List.flatMap_def, List.map_const']

/-- A pair asks for one relationship at most, and for nothing else. -/
lemma kinds_relationshipWrites_sublist (persistGeneric : Bool) (document : String)
    (a b : Entity) :
    (kinds (relationshipWrites persistGeneric document a b)).Sublist [.relationship] := by
  rw [relationshipWrites]
  split
  · exact List.nil_sublist _
  · have hlabel := Relationship.resolve_label_ne_appearsIn a.toMention b.toMention
    simp [kinds, Write.key, Key.kind, hlabel]

lemma kinds_relationships_sublist (persistGeneric : Bool) (document : String)
    (ps : List (Entity × Entity)) :
    (kinds (ps.flatMap fun (a, b) => relationshipWrites persistGeneric document a b)).Sublist
      (List.replicate ps.length .relationship) := by
  induction ps with
  | nil => exact .slnil
  | cons pair ps ih =>
      rw [List.flatMap_cons, kinds, List.map_append, List.length_cons, List.replicate_succ]
      exact (kinds_relationshipWrites_sublist persistGeneric document pair.1 pair.2).append ih

/-- **What a document asks for**: its vertex, a vertex and an appearance for each entity, and at
most a relationship for each pair. -/
lemma kinds_writes_sublist (p : Policy) (d : Document) : (kinds (writes p d)).Sublist
    (asked (recorded p d).entityCount (Entity.pairs (firstMentions p d)).length) := by
  rw [writes, kinds, List.map_cons, List.map_append, ← kinds, ← kinds, kinds_mentions,
    length_firstMentions]
  exact ((kinds_relationships_sublist _ _ _).append_left _).cons_cons _

/-! ### What a recording has added -/

/-- What an edge is. -/
def edgeKind (e : Edge) : Kind := (Key.edge e.source e.target e.label).kind

lemma isAppearance_eq (e : Edge) : e.isAppearance = (edgeKind e == .appearance) := by
  by_cases h : e.label = Relationship.appearsIn <;> simp [edgeKind, Key.kind, Edge.isAppearance, h]

lemma not_isAppearance_eq (e : Edge) : (!e.isAppearance) = (edgeKind e == .relationship) := by
  by_cases h : e.label = Relationship.appearsIn <;> simp [edgeKind, Key.kind, Edge.isAppearance, h]

/-- Edges of one kind are counted by their kinds. -/
lemma length_filter_eq_count {ofKind : Edge → Bool} {k : Kind}
    (h : ∀ e, ofKind e = (edgeKind e == k)) (es : List Edge) :
    (es.filter ofKind).length = (es.map edgeKind).count k := by
  rw [List.count_eq_countP, List.countP_map, List.countP_eq_length_filter]
  exact congrArg List.length (List.filter_congr fun e _ => h e)

/-- **What a recording adds** stays within what its report says. -/
lemma exists_added_record (hrun : record p d s = (.ok r, s')) : ∃ vs es,
    s'.graph.vertices = s.graph.vertices ++ vs ∧ s'.graph.edges = s.graph.edges ++ es ∧
    vs.length ≤ r.entityCount + 1 ∧ (es.filter Edge.isAppearance).length ≤ r.entityCount ∧
    (es.filter fun e => !e.isAppearance).length ≤ (Entity.pairs (firstMentions p d)).length := by
  obtain ⟨rfl, hgraph, -, -⟩ := (record_performs p d).of_ok hrun
  obtain ⟨vs, es, hvs, hes, hvkeys, hekeys⟩ := s.graph.exists_added (s.clock.stamp (writes p d))
  have hwrites : (((s.clock.stamp (writes p d)).map Prod.fst).map Write.key).map Key.kind
      = kinds (writes p d) := by
    rw [Clock.map_fst_stamp, List.map_map]
    rfl
  have hvertices : (vs.map fun _ => Kind.vertex).Sublist (kinds (writes p d)) := by
    have h := hvkeys.map Key.kind
    rwa [hwrites, List.map_map] at h
  have hedges : (es.map edgeKind).Sublist (kinds (writes p d)) := by
    have h := hekeys.map Key.kind
    rwa [hwrites, List.map_map] at h
  have hle := fun k => (hedges.trans (kinds_writes_sublist p d)).count_le k
  simp only [count_asked] at hle
  refine ⟨vs, es, by rw [hgraph, hvs], by rw [hgraph, hes], ?_, ?_, ?_⟩
  · have h := (hvertices.trans (kinds_writes_sublist p d)).count_le .vertex
    rwa [count_asked, List.map_const', List.count_replicate_self] at h
  · rw [length_filter_eq_count isAppearance_eq]
    exact hle .appearance
  · rw [length_filter_eq_count not_isAppearance_eq]
    exact hle .relationship

/-- Everything that is reported stands in the graph. -/
lemma stands_of_mem_persisted (hrun : record p d s = (.ok r, s')) {e : Entity}
    (he : e ∈ r.persisted) :
    e.id ∈ s'.graph.vertexIds ∧ (e.id, d.id, Relationship.appearsIn) ∈ s'.graph.edgeKeys := by
  obtain ⟨rfl, -, -, -⟩ := (record_performs p d).of_ok hrun
  obtain ⟨hin, hconfident⟩ := mem_confident_iff.mp he
  exact ⟨(has_record_iff (k := .vertex e.id) hrun).mpr (.inr (.entity hin hconfident)),
    (has_record_iff (k := .edge e.id d.id Relationship.appearsIn) hrun).mpr
      (.inr (.appearance hin hconfident))⟩

/-- Every entity that is reported has an appearance of its own in the document. -/
lemma entityCount_le_appearancesAt (hrun : record p d s = (.ok r, s')) :
    r.entityCount ≤ (s'.graph.appearancesAt d.id).length := by
  have hsubset : (r.persisted.map fun e => e.id).toFinset
      ⊆ ((s'.graph.appearancesAt d.id).map Edge.source).toFinset := by
    intro id hid
    obtain ⟨e, he, rfl⟩ := List.mem_map.mp (List.mem_toFinset.mp hid)
    obtain ⟨edge, hedge, heq⟩ := List.mem_map.mp (stands_of_mem_persisted hrun he).2
    obtain ⟨hsource, htarget, hlabel⟩ := by simpa using heq
    refine List.mem_toFinset.mpr (List.mem_map.mpr ⟨edge, ?_, hsource⟩)
    exact List.mem_filter.mpr ⟨hedge, by simp [Edge.isAppearance, htarget, hlabel]⟩
  calc r.entityCount
      ≤ ((s'.graph.appearancesAt d.id).map Edge.source).toFinset.card := Finset.card_le_card hsubset
    _ ≤ ((s'.graph.appearancesAt d.id).map Edge.source).length := List.toFinset_card_le _
    _ = (s'.graph.appearancesAt d.id).length := List.length_map _

/-- **A report says what has been written**, to whatever graph. It lists the mentions that are
confident enough. With `k` entities among them it counts `k * (k - 1) / 2` pairs; at most `k + 1`
vertices, `k` appearances and as many relationships as there are pairs have been added, and nothing
that was there has changed. All that is listed stands in the graph, with its appearance in the
document. A document that is new to the graph, in which edges end at vertices, has exactly `k`
appearances. -/
theorem record_reports (hrun : record p d s = (.ok r, s')) :
    r.persisted = d.entities.filter (fun e => p.threshold ≤ e.confidence) ∧
    r.pairs = (r.entityCount * (r.entityCount - 1) / 2 : ℕ) ∧
    (∃ vs es, s'.graph.vertices = s.graph.vertices ++ vs ∧ s'.graph.edges = s.graph.edges ++ es ∧
      vs.length ≤ r.entityCount + 1 ∧ (es.filter Edge.isAppearance).length ≤ r.entityCount ∧
      ((es.filter fun e => !e.isAppearance).length : ℤ) ≤ r.pairs) ∧
    (∀ e ∈ r.persisted, e.id ∈ s'.graph.vertexIds ∧
      (e.id, d.id, Relationship.appearsIn) ∈ s'.graph.edgeKeys) ∧
    ((∀ e ∈ s.graph.edges, e.target ∈ s.graph.vertexIds) → d.id ∉ s.graph.vertexIds →
      (s'.graph.appearancesAt d.id).length = r.entityCount) := by
  obtain ⟨vs, es, hvs, hes, hvertices, happearances, hrelationships⟩ := exists_added_record hrun
  have hr : r = recorded p d := ((record_performs p d).of_ok hrun).1
  have hpairs : r.pairs = ((Entity.pairs (firstMentions p d)).length : ℤ) := by
    rw [hr]
    rfl
  refine ⟨by rw [hr]; rfl, ?_, ⟨vs, es, hvs, hes, hvertices, happearances, ?_⟩,
    fun e he => stands_of_mem_persisted hrun he, fun hends hnew => ?_⟩
  · rw [hpairs, Entity.length_pairs, length_firstMentions, ← hr, Nat.choose_two_right]
  · rw [hpairs]
    exact_mod_cast hrelationships
  · refine Nat.le_antisymm ?_ (entityCount_le_appearancesAt hrun)
    have hold : s.graph.edges.filter (fun e => e.isAppearance && e.target == d.id) = [] :=
      Graph.appearancesAt_eq_nil hends hnew
    rw [Graph.appearancesAt, hes, List.filter_append, hold, List.nil_append]
    refine Nat.le_trans ?_ happearances
    rw [← List.filter_filter]
    exact (List.filter_sublist.filter _).length_le

/-- The memo mentions a person twice and a place, and the place is known from the letter: two
entities, one pair and two appearances. -/
theorem record_reports_of_memo_after_letter :
    ∃ s s', record {} History.letter {} = (.ok (recorded {} History.letter), s) ∧
      record {} History.memo s = (.ok (recorded {} History.memo), s') ∧
      (recorded {} History.memo).entityCount = 2 ∧ (recorded {} History.memo).pairs = 1 ∧
      (s'.graph.appearancesAt "memo").length = 2 := by
  obtain ⟨s, hletter⟩ := (record_performs {} History.letter).succeeds (s := {}) (.of_eq_nil rfl)
  obtain ⟨-, hgraph, -, hfaultless⟩ := (record_performs {} History.letter).of_ok hletter
  obtain ⟨s', hmemo⟩ := (record_performs {} History.memo).succeeds (hfaultless (.of_eq_nil rfl))
  have hends : ∀ e ∈ s.graph.edges, e.target ∈ s.graph.vertexIds := by
    rw [hgraph]
    exact fun e he => ((Graph.WellFormed.empty.writeAll _).closed e he).2
  have hnew : "memo" ∉ s.graph.vertexIds := by
    have hids : (record {} History.letter {}).2.graph.vertexIds
        = ["letter", vertexId "berlin"] := by
      decide +kernel
    rw [hletter] at hids
    rw [hids]
    decide +kernel
  have hcount : (recorded {} History.memo).entityCount = 2 := by decide +kernel
  obtain ⟨-, hpairs, -, -, happearances⟩ := record_reports hmemo
  rw [hcount] at hpairs happearances
  exact ⟨s, s', hletter, hmemo, hcount, hpairs, happearances hends hnew⟩

end Recording

end EntityGraph
