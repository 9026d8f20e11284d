import EntityGraph.Proofs.Graph.Write
import EntityGraph.Search.Row
import Mathlib.Data.List.Induction
/-!
Reading a graph in which nothing is there twice.

* `Simple.vertex?_eq_some_iff`: a vertex is found by its id.
* `Simple.mem_documentsOf_iff`, `Simple.mem_map_snd_appearances_iff`: both sides of an appearance are
  told by the edge that says so. `Simple.nodup_documentsOf` and `Simple.nodup_appearances` say that
  nothing is listed twice on either side.
* `Simple.mem_appearing_iff`: the entities that appear in a document are those with an edge to it
  that says so.
* `mem_neighbours_iff_exists`: neighbours are the ends of an edge, in one direction or the other.
* `firstMatches_ofQuery`: the documents that are found are the first ones among those that satisfy
  the query.
* `Vertex.get?_id_row`: a row tells the id of its vertex, unless a property hides it.
-/

namespace EntityGraph

namespace Graph

variable {g : Graph} {id : String} {v : Vertex} {e : Edge}

/-- A vertex is found by its id. -/
lemma Simple.vertex?_eq_some_iff (h : g.Simple) :
    g.vertex? id = some v ↔ v ∈ g.vertices ∧ v.id = id := by
  constructor
  · intro hfind
    exact ⟨List.mem_of_find?_eq_some hfind, by simpa using List.find?_some hfind⟩
  · rintro ⟨hv, rfl⟩
    have hsome : (g.vertex? v.id).isSome := hasVertex_iff.mpr (List.mem_map_of_mem hv)
    obtain ⟨w, hw⟩ := Option.isSome_iff_exists.mp hsome
    have hid : w.id = v.id := by simpa using List.find?_some hw
    rw [hw, List.inj_on_of_nodup_map h.vertices (List.mem_of_find?_eq_some hw) hv hid]

lemma exists_mem_vertices (h : id ∈ g.vertexIds) : ∃ v ∈ g.vertices, v.id = id :=
  List.mem_map.mp h

/-- An edge joins two vertices, in one direction or the other. -/
lemma mem_neighbours_iff_exists {a b : String} : b ∈ g.neighbours a ↔
    ∃ e ∈ g.edges, e.source = a ∧ e.target = b ∨ e.source = b ∧ e.target = a := by
  simp only [neighbours, List.mem_append, List.mem_map, List.mem_filter, beq_iff_eq]
  grind

lemma mem_groupedBy_iff {key : Edge → String} {edges : List Edge} :
    e ∈ groupedBy key edges ↔ e ∈ edges := by
  simp only [groupedBy, List.mem_flatMap, List.mem_eraseDups, List.mem_map, List.mem_filter,
    beq_iff_eq]
  exact ⟨fun ⟨_, _, he, _⟩ => he, fun he => ⟨key e, ⟨e, he, rfl⟩, he, rfl⟩⟩

/-! ### Both sides of an appearance -/

lemma nodup_eraseDups {α : Type} [BEq α] [LawfulBEq α] (keys : List α) :
    keys.eraseDups.Nodup := by
  induction keys using List.reverseRecOn with
  | nil => exact List.nodup_nil
  | append_singleton keys k ih =>
      rw [List.eraseDups_append, List.removeAll]
      by_cases hk : k ∈ keys
      · rwa [List.filter_cons_of_neg (by simpa using hk), List.filter_nil, List.eraseDups_nil,
          List.append_nil]
      · rw [List.filter_cons_of_pos (by simpa using hk), List.filter_nil]
        exact ih.append (List.nodup_singleton k) (by simpa [List.eraseDups_cons] using hk)

lemma nodup_groupedBy (key : Edge → String) {edges : List Edge} (h : edges.Nodup) :
    (groupedBy key edges).Nodup := by
  refine List.nodup_flatMap.mpr ⟨fun k _ => h.filter _, ?_⟩
  refine (nodup_eraseDups _).imp fun {k k'} hne e he he' => hne ?_
  have hk : key e = k := by simpa using (List.mem_filter.mp he).2
  have hk' : key e = k' := by simpa using (List.mem_filter.mp he').2
  exact hk.symm.trans hk'

/-- No two appearances at a vertex have the same other end, on either side. -/
lemma Simple.nodup_ends (h : g.Simple) {near far : Edge → String}
    (hends : ∀ e e', near e = near e' → far e = far e' →
      e.source = e'.source ∧ e.target = e'.target) (id : String) :
    (((groupedBy far (g.edges.filter fun e => near e == id)).filter Edge.isAppearance).map
      far).Nodup := by
  have hedges : g.edges.Nodup := .of_map _ h.edges
  refine ((nodup_groupedBy far (hedges.filter _)).filter _).map_on fun e he e' he' hfar => ?_
  simp only [List.mem_filter, mem_groupedBy_iff, beq_iff_eq, Edge.isAppearance] at he he'
  obtain ⟨⟨he, hnear⟩, hlabel⟩ := he
  obtain ⟨⟨he', hnear'⟩, hlabel'⟩ := he'
  obtain ⟨hsource, htarget⟩ := hends e e' (hnear.trans hnear'.symm) hfar
  refine List.inj_on_of_nodup_map h.edges he he' ?_
  rw [hsource, htarget, hlabel, hlabel']

/-- The vertices with some ids are in the order of the ids. -/
lemma ids_filterMap_sublist (ids : List String) :
    ((ids.filterMap g.vertex?).map Vertex.id).Sublist ids := by
  induction ids with
  | nil => exact .slnil
  | cons id ids ih =>
      cases hfind : g.vertex? id with
      | none =>
          rw [List.filterMap_cons_none hfind]
          exact ih.cons id
      | some v =>
          have hid : v.id = id := by simpa using List.find?_some hfind
          rw [List.filterMap_cons_some hfind, List.map_cons, hid]
          exact ih.cons_cons id

lemma documentsOf_of_mem (hid : id ∈ g.vertexIds) : g.documentsOf id
    = (((g.outgoing id).filter Edge.isAppearance).map Edge.target).filterMap g.vertex? := by
  rw [documentsOf, if_pos (hasVertex_iff.mpr hid), List.filterMap_map]
  rfl

lemma map_snd_appearances (g : Graph) (id : String) : (g.appearances id).map Prod.snd
    = (((g.incoming id).filter Edge.isAppearance).map Edge.source).filterMap g.vertex? := by
  rw [appearances, List.map_filterMap, List.filterMap_map]
  refine congrArg (List.filterMap · _) (funext fun e => ?_)
  rw [Option.map_map, Function.comp_apply]
  exact Option.map_id_apply

/-- **Where a vertex appears.** -/
theorem Simple.mem_documentsOf_iff (h : g.Simple) (hid : id ∈ g.vertexIds) :
    v ∈ g.documentsOf id ↔
      v ∈ g.vertices ∧ (id, v.id, Relationship.appearsIn) ∈ g.edgeKeys := by
  simp only [documentsOf_of_mem hid, outgoing, List.mem_filterMap, List.mem_map, List.mem_filter,
    mem_groupedBy_iff, h.vertex?_eq_some_iff, Edge.isAppearance, beq_iff_eq, edgeKeys,
    Prod.mk.injEq]
  constructor
  · rintro ⟨-, ⟨e, ⟨⟨he, hsource⟩, hlabel⟩, rfl⟩, hv, htarget⟩
    exact ⟨hv, e, he, hsource, htarget.symm, hlabel⟩
  · rintro ⟨hv, e, he, hsource, htarget, hlabel⟩
    exact ⟨e.target, ⟨e, ⟨⟨he, hsource⟩, hlabel⟩, rfl⟩, hv, htarget.symm⟩

/-- **What appears in a document.** -/
theorem Simple.mem_map_snd_appearances_iff (h : g.Simple) :
    v ∈ (g.appearances id).map Prod.snd ↔
      v ∈ g.vertices ∧ (v.id, id, Relationship.appearsIn) ∈ g.edgeKeys := by
  simp only [map_snd_appearances, incoming, List.mem_filterMap, List.mem_map, List.mem_filter,
    mem_groupedBy_iff, h.vertex?_eq_some_iff, Edge.isAppearance, beq_iff_eq, edgeKeys,
    Prod.mk.injEq]
  constructor
  · rintro ⟨-, ⟨e, ⟨⟨he, htarget⟩, hlabel⟩, rfl⟩, hv, hsource⟩
    exact ⟨hv, e, he, hsource.symm, htarget, hlabel⟩
  · rintro ⟨hv, e, he, hsource, htarget, hlabel⟩
    exact ⟨e.source, ⟨e, ⟨⟨he, htarget⟩, hlabel⟩, rfl⟩, hv, hsource.symm⟩

/-- The entities that appear in a document. -/
theorem Simple.mem_appearing_iff (h : g.Simple) : v ∈ g.appearing id ↔
    v ∈ g.vertices ∧ v.isEntity = true ∧ (v.id, id, Relationship.appearsIn) ∈ g.edgeKeys := by
  rw [appearing, List.mem_filter, h.mem_map_snd_appearances_iff]
  tauto

lemma documentsOf_subset : g.documentsOf id ⊆ g.vertices := by
  rw [documentsOf]
  split
  · intro v hv
    obtain ⟨e, -, hfind⟩ := List.mem_filterMap.mp hv
    exact List.mem_of_find?_eq_some hfind
  · exact List.nil_subset _

/-- No document is listed twice for a vertex. -/
theorem Simple.nodup_documentsOf (h : g.Simple) (id : String) :
    ((g.documentsOf id).map Vertex.id).Nodup := by
  by_cases hid : id ∈ g.vertexIds
  · rw [documentsOf_of_mem hid]
    exact (h.nodup_ends (fun _ _ hnear hfar => ⟨hnear, hfar⟩) id).sublist (ids_filterMap_sublist _)
  · rw [documentsOf, if_neg (mt hasVertex_iff.mp hid)]
    exact List.nodup_nil

/-- Nothing is listed twice as appearing in a document. -/
theorem Simple.nodup_appearances (h : g.Simple) (id : String) :
    (((g.appearances id).map Prod.snd).map Vertex.id).Nodup := by
  rw [map_snd_appearances]
  exact (h.nodup_ends (fun _ _ hnear hfar => ⟨hfar, hnear⟩) id).sublist (ids_filterMap_sublist _)

/-! ### Documents by query -/

/-- **The first matches** among some documents, in their order and up to the limit. -/
theorem firstMatches_ofQuery (q : Query) {limit : Int} (hlimit : 1 ≤ limit) (ds : List Vertex) :
    g.firstMatches (.ofQuery q) limit ds
      = .ok ((ds.filter fun d => q.holds fun t => g.satisfies d.id t.asked).take limit.toNat) := by
  induction ds generalizing limit with
  | nil => simp [firstMatches]
  | cons d ds ih =>
      rw [firstMatches, Draft.holds_ofQuery]
      show (if _ then _ else _) = _
      cases hd : q.holds fun t => g.satisfies d.id t.asked with
      | false =>
          rw [List.filter_cons_of_neg (by simp [hd])]
          exact ih hlimit
      | true =>
          rw [List.filter_cons_of_pos (by simp [hd])]
          show (if _ then _ else _) = _
          obtain ⟨n, rfl⟩ : ∃ n : Nat, limit = n + 1 := ⟨(limit - 1).toNat, by omega⟩
          have hcount : ((n : Int) + 1).toNat = n + 1 := by omega
          rw [hcount, List.take_succ_cons]
          by_cases hlast : (n : Int) + 1 ≤ 1
          · obtain rfl : n = 0 := by omega
            rw [if_pos hlast, List.take_zero]
            rfl
          · rw [if_neg hlast, ih (by omega)]
            show Except.ok _ = _
            rw [Int.add_sub_cancel, Int.toNat_natCast]

/-- The documents that satisfy a query are returned, and the graph stays as it is. -/
lemma execute_matchDocuments (q : Query) {limit : Int} (hlimit : 1 ≤ limit) :
    g.execute (.matchDocuments (.ofQuery q) limit) = .ok (g, vertexRows
      (((g.labelled documentLabel).filter fun d => q.holds fun t => g.satisfies d.id t.asked).take
        limit.toNat)) := by
  show (((g.matchDocuments (.ofQuery q) limit).mapError GraphError.foreign).map vertexRows).map _
    = _
  rw [matchDocuments, firstMatches_ofQuery q hlimit]
  rfl

end Graph

/-! ### Rows -/

/-- Fields that are written leave the other ones as they are. -/
lemma Fields.get?_setAll_of_not_mem {fields more : Fields} {key : String}
    (h : key ∉ more.map Prod.fst) : (fields.setAll more).get? key = fields.get? key := by
  induction more generalizing fields with
  | nil => rfl
  | cons field more ih =>
      rw [List.map_cons, List.mem_cons, not_or] at h
      obtain ⟨hne, hmore⟩ := h
      exact (ih hmore).trans (get?_set_of_ne fields field.2 hne)

lemma Row.get?_flatten (row : Row) (key : String) :
    Fields.get? (Row.flatten row) key = (Fields.get? row key).map Row.unwrap := by
  induction row with
  | nil => rfl
  | cons field row ih =>
      show Fields.get? ((field.1, Row.unwrap field.2) :: Row.flatten row) key = _
      rw [Fields.get?, Fields.get?, ih]
      split <;> rfl

/-- **A row tells the id of its vertex**, unless a property hides it. -/
lemma Vertex.get?_id_row {v : Vertex} (h : "id" ∉ v.properties.map Prod.fst) :
    Fields.get? v.row "id" = some (.str v.id) := by
  rw [row, Fields.get?_setAll_of_not_mem (by simpa using h)]
  rfl

lemma Vertex.get?_id_flatten_row {v : Vertex} (h : "id" ∉ v.properties.map Prod.fst) :
    Fields.get? (Row.flatten v.row) "id" = some (.str v.id) := by
  rw [Row.get?_flatten, get?_id_row h]
  rfl

end EntityGraph
