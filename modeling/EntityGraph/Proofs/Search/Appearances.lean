import EntityGraph.Proofs.Entity.Checks
import EntityGraph.Proofs.Search.Entities
import EntityGraph.Proofs.Search.Rows
/-!
Who appears where, as the searches tell it.

Three searches answer this by different routes: from the identity of a text along the edges that
leave an entity, from a document along the edges that lead to it, and by comparing a text with those
that the entities in each document are stored with. In the graph of a history every entity has the
identity of its stored text, so the routes meet.

* `History.length_documentsOf_le`: the routes along edges lead to documents only, so a limit with
  room for all documents cuts nothing off.
* `History.satisfies_stored_text_iff`: the stored text singles out the entity.
* `History.exists_documentsFor`, `History.exists_entitiesIn`, `History.exists_keywords`: each search
  agrees with the edges.
* `History.searches_agree`: so they agree with each other, and none returns anything twice.
-/

namespace EntityGraph

/-- A vertex has the text that one of its properties is. -/
lemma Vertex.hasText_of_property {v : Vertex} {name x : String} (h : v.property name = .str x) :
    v.hasText name x = true := by
  rw [hasText, h]
  exact beq_self_eq_true _

namespace Recording.History

open Relationship Search Query

variable {p : Policy} {h : List (Document × Recorded)} {g : Graph} {s : Session} {v w : Vertex}
  {b : Bounds} {x : String}

lemma plain (H : History p h g) (hids : IdsApart p h) (hv : v ∈ g.vertices) : Plain v := by
  rcases H.vertex_cases hids hv with ⟨e, time, -, rfl⟩ | ⟨d, time, -, rfl⟩
  · exact id_not_mem_entityVertex e time
  · exact id_not_mem_documentVertex d.1 time

/-- The identity of an entity is that of the text it is stored with. -/
lemma id_of_hasText (H : History p h g) (hids : IdsApart p h) (hv : v ∈ g.labelled entityLabel)
    (hx : v.hasText "text" x = true) : v.id = vertexId x := by
  obtain ⟨e, time, -, rfl⟩ := H.entityVertex_of_labelled hids hv
  have hfield : "text" ∈ writableFields := List.mem_cons_self
  rw [hasText_entityVertex e time hfield, beq_iff_eq] at hx
  exact congrArg vertexId (Option.some.inj hx)

/-- Whatever something appears in is a document. -/
lemma labelled_of_appearance (H : History p h g) (hids : IdsApart p h) (hw : w ∈ g.vertices)
    (hedge : (v.id, w.id, appearsIn) ∈ g.edgeKeys) : w ∈ g.labelled documentLabel := by
  have hhas : g.Has (.edge v.id w.id appearsIn) := hedge
  obtain ⟨d, r, hmem, hsaid⟩ := H.has_iff.mp hhas
  obtain ⟨hid, -⟩ := says_appearance_iff.mp hsaid
  obtain ⟨w', hw', hid'⟩ := H.exists_document_vertex hids hmem
  have hsame : w' = w := List.inj_on_of_nodup_map H.simple.vertices (List.mem_filter.mp hw').1 hw
    (hid'.trans hid)
  rwa [hsame] at hw'

/-- No vertex appears in more documents than there are. -/
lemma length_documentsOf_le (H : History p h g) (hids : IdsApart p h) (hv : v ∈ g.vertices) :
    (g.documentsOf v.id).length ≤ (g.labelled documentLabel).length := by
  have hsubset : (g.documentsOf v.id).map Vertex.id ⊆ (g.labelled documentLabel).map Vertex.id := by
    refine List.map_subset _ fun w hw => ?_
    obtain ⟨hmem, hedge⟩ := (H.simple.mem_documentsOf_iff (List.mem_map_of_mem hv)).mp hw
    exact H.labelled_of_appearance hids hmem hedge
  have hle := ((H.simple.nodup_documentsOf v.id).subperm hsubset).length_le
  rwa [List.length_map, List.length_map] at hle

/-- The entity with a stored text is the only one with this text. -/
lemma satisfies_stored_text_iff (H : History p h g) (hids : IdsApart p h)
    (hv : v ∈ g.labelled entityLabel) (hx : v.hasText "text" x = true) (id : String) :
    g.satisfies id (.str "text", .str x) = true ↔ (v.id, id, appearsIn) ∈ g.edgeKeys := by
  obtain ⟨hvertex, hentity⟩ := List.mem_filter.mp hv
  simp only [Graph.satisfies, List.any_eq_true, H.simple.mem_appearing_iff, Vertex.holds_str]
  constructor
  · rintro ⟨v', ⟨hvertex', hentity', hedge⟩, hx'⟩
    have hv' : v' ∈ g.labelled entityLabel := List.mem_filter.mpr ⟨hvertex', hentity'⟩
    rwa [H.id_of_hasText hids hv hx, ← H.id_of_hasText hids hv' hx']
  · intro hedge
    exact ⟨v, ⟨hvertex, hentity, hedge⟩, hx⟩

/-- The text that an entity is stored with is that of a mention. -/
lemma exists_stored_text (H : History p h g) (hids : IdsApart p h)
    (hv : v ∈ g.labelled entityLabel) : ∃ e ∈ mentions p h, v.property "text" = .str e.text := by
  obtain ⟨e, time, hfirst, rfl⟩ := H.entityVertex_of_labelled hids hv
  exact ⟨e, hfirst.mem, rfl⟩

/-! ### The searches for an entity and for a document -/

section Searches

variable (H : History p h s.graph) (hids : IdsApart p h) (hs : s.Faultless)

include H hids

/-- Rows of vertices of the graph tell the id of one of them if it is among them. -/
lemma mem_ids_iff {vs : List Vertex} (hvs : ∀ u ∈ vs, u ∈ s.graph.vertices)
    (hw : w ∈ s.graph.vertices) :
    some (.str w.id) ∈ ids ((Graph.vertexRows vs).map Row.flatten) ↔ w ∈ vs := by
  rw [mem_ids_vertexRows_iff fun u hu => H.plain hids (hvs u hu)]
  constructor
  · rintro ⟨u, hu, hid⟩
    rwa [← List.inj_on_of_nodup_map H.simple.vertices (hvs u hu) hw hid]
  · intro hmem
    exact ⟨w, hmem, rfl⟩

include hs

/-- Along the edges that leave an entity. -/
lemma exists_documentsFor (hv : v ∈ s.graph.labelled entityLabel)
    (hx : v.hasText "text" x = true) (hfilled : Text.isBlankText x = false)
    (hw : w ∈ s.graph.labelled documentLabel) {n : Int}
    (hroom : (s.graph.labelled documentLabel).length ≤ min n b.maxLimit) :
    ∃ rows s', documentsFor b (.str x) (.int n) s = (.ok rows, s') ∧
      (some (.str w.id) ∈ ids rows ↔ (v.id, w.id, appearsIn) ∈ s.graph.edgeKeys) := by
  have hvertex := (List.mem_filter.mp hv).1
  have hvertex' := (List.mem_filter.mp hw).1
  have hpos := List.length_pos_of_mem hw
  obtain ⟨s', hrun⟩ := documentsFor_of_faultless b hfilled (by omega : 1 ≤ n) hs
  have hall := H.length_documentsOf_le hids hvertex
  rw [← H.id_of_hasText hids hv hx, Graph.documentsForEntity,
    limited_of_length_le (by omega)] at hrun
  have hmem : ∀ {u}, u ∈ s.graph.documentsOf v.id ↔
      u ∈ s.graph.vertices ∧ (v.id, u.id, appearsIn) ∈ s.graph.edgeKeys :=
    H.simple.mem_documentsOf_iff (List.mem_map_of_mem hvertex)
  refine ⟨_, s', hrun, ?_⟩
  rw [H.mem_ids_iff hids (fun u hu => (hmem.mp hu).1) hvertex', hmem]
  exact and_iff_right hvertex'

/-- Along the edges that lead to a document. -/
lemma exists_entitiesIn (hv : v ∈ s.graph.labelled entityLabel)
    (hw : w ∈ s.graph.labelled documentLabel) (hfilled : Text.isBlankText w.id = false) :
    ∃ rows s', entitiesIn (.str w.id) s = (.ok rows, s') ∧
      (some (.str v.id) ∈ ids (entities rows) ↔
        (v.id, w.id, appearsIn) ∈ s.graph.edgeKeys) := by
  have hvertex := (List.mem_filter.mp hv).1
  have hvertex' := (List.mem_filter.mp hw).1
  have hdocument : w.isDocument = true := (List.mem_filter.mp hw).2
  obtain ⟨s', hrun⟩ := entitiesIn_of_faultless hfilled hs
  have hfind : s.graph.vertex? w.id = some w := H.simple.vertex?_eq_some_iff.mpr ⟨hvertex', rfl⟩
  rw [Graph.entitiesInDocument, hfind, Option.any_some, if_pos hdocument] at hrun
  refine ⟨_, s', hrun, ?_⟩
  rw [entities_appearanceRows, H.mem_ids_iff hids
    (fun u hu => (H.simple.mem_map_snd_appearances_iff.mp hu).1) hvertex,
    H.simple.mem_map_snd_appearances_iff]
  exact and_iff_right hvertex

/-- By comparing the stored texts with the one that is asked for. -/
lemma exists_keywords (hv : v ∈ s.graph.labelled entityLabel) (hx : v.hasText "text" x = true)
    (hw : w ∈ s.graph.labelled documentLabel) {query : String} {limit : Value} {n : Int}
    (hparse : parse query = .ok (.term ⟨textField, x⟩)) (hlimit : b.asked limit = .int n)
    (hroom : (s.graph.labelled documentLabel).length ≤ min n b.maxLimit) :
    ∃ rows s', keywords b (.str query) limit s = (.ok rows, s') ∧
      (some (.str w.id) ∈ ids rows ↔ (v.id, w.id, appearsIn) ∈ s.graph.edgeKeys) := by
  have hpos := List.length_pos_of_mem hw
  obtain ⟨s', hrun⟩ := keywords_of_faultless b query hlimit (by omega) hs
  have hmem : ∀ {u}, u ∈ s.graph.found query (min n b.maxLimit) ↔
      u ∈ s.graph.labelled documentLabel ∧ s.graph.satisfies u.id (.str "text", .str x) = true :=
    Graph.mem_found_of_room hroom hparse
  refine ⟨_, s', hrun, ?_⟩
  rw [H.mem_ids_iff hids (fun u hu => (List.mem_filter.mp (hmem.mp hu).1).1)
    (List.mem_filter.mp hw).1, hmem, H.satisfies_stored_text_iff hids hv hx]
  exact and_iff_right hw

end Searches

/-! ### Nothing is returned twice -/

section Once

variable {rows : List Row} {s' : Session} (H : History p h s.graph) (hids : IdsApart p h)

include H hids

lemma nodup_documentsFor {text limit : Value}
    (hrun : documentsFor b text limit s = (.ok rows, s')) : (ids rows).Nodup := by
  obtain ⟨y, k, rfl⟩ := documentsFor_inv hrun
  have hsub := limited_sublist k (s.graph.documentsOf (vertexId y))
  refine nodup_ids_vertexRows (fun u hu => H.plain hids ?_)
    ((H.simple.nodup_documentsOf _).sublist (hsub.map Vertex.id))
  exact Graph.documentsOf_subset (hsub.subset hu)

lemma nodup_entitiesIn {document : Value} (hrun : entitiesIn document s = (.ok rows, s')) :
    (ids (entities rows)).Nodup := by
  obtain ⟨id, rfl⟩ := entitiesIn_inv hrun
  rw [entities_appearanceRows, Graph.entitiesInDocument]
  split
  · exact nodup_ids_vertexRows
      (fun u hu => H.plain hids (H.simple.mem_map_snd_appearances_iff.mp hu).1)
      (H.simple.nodup_appearances id)
  · exact List.nodup_nil

lemma nodup_keywords {query limit : Value}
    (hrun : keywords b query limit s = (.ok rows, s')) : (ids rows).Nodup := by
  obtain ⟨text, k, rfl⟩ := keywords_inv hrun
  have hsub := (s.graph.found_sublist text k).trans List.filter_sublist
  exact nodup_ids_vertexRows (fun u hu => H.plain hids (hsub.subset hu))
    (H.simple.vertices.sublist (hsub.map Vertex.id))

end Once

/-! ### All searches together -/

/-- What the searches of a session say about an entity `v`, stored with a text `x`, and a document
`w`: all of them list the one for the other exactly if there is an edge which says that the entity
appears in the document. -/
structure SearchesAgree (b : Bounds) (s : Session) (v : Vertex) (x : String) (w : Vertex) :
    Prop where
  /-- Documents of the entity, with room for all documents. -/
  documents : Text.isBlankText x = false →
    ∀ n : Int, (s.graph.labelled documentLabel).length ≤ min n b.maxLimit →
      ∃ rows s', documentsFor b (.str x) (.int n) s = (.ok rows, s') ∧
        (some (.str w.id) ∈ ids rows ↔ (v.id, w.id, appearsIn) ∈ s.graph.edgeKeys)
  /-- Entities in the document. -/
  entities : Text.isBlankText w.id = false →
    ∃ rows s', entitiesIn (.str w.id) s = (.ok rows, s') ∧
      (some (.str v.id) ∈ ids (Search.entities rows) ↔
        (v.id, w.id, appearsIn) ∈ s.graph.edgeKeys)
  /-- Documents that satisfy the query for the text, with room for all documents. -/
  keywords : ∀ query limit, ∀ n : Int, parse query = .ok (.term ⟨textField, x⟩) →
    b.asked limit = .int n → (s.graph.labelled documentLabel).length ≤ min n b.maxLimit →
      ∃ rows s', Search.keywords b (.str query) limit s = (.ok rows, s') ∧
        (some (.str w.id) ∈ ids rows ↔ (v.id, w.id, appearsIn) ∈ s.graph.edgeKeys)

lemma searchesAgree_of_labelled (H : History p h s.graph) (hids : IdsApart p h)
    (hs : s.Faultless) (b : Bounds) (hv : v ∈ s.graph.labelled entityLabel)
    (hx : v.property "text" = .str x) (hw : w ∈ s.graph.labelled documentLabel) :
    SearchesAgree b s v x w := by
  have htext := Vertex.hasText_of_property hx
  exact ⟨fun hfilled _ => H.exists_documentsFor hids hs hv htext hfilled hw,
    H.exists_entitiesIn hids hs hv hw, fun _ _ _ => H.exists_keywords hids hs hv htext hw⟩

/-- **The searches agree on who appears where.** Every entity is stored with a text, for which there
is a query text, and every search with room for all documents lists a document for the entity, or
the entity for the document, exactly if an edge says that it appears there. Whatever a search is
asked for, it returns nothing twice. A text or a document id of nothing but white space is refused,
whatever there is in the graph; mentions that have been read leave no such texts. -/
theorem searches_agree (H : History p h s.graph) (hids : IdsApart p h) (hs : s.Faultless)
    (b : Bounds) :
    (∀ v ∈ s.graph.labelled entityLabel, ∃ x, v.property "text" = .str x ∧
      ((∀ e ∈ mentions p h, ∃ given, Entity.ofValue given = .valid e) →
        Text.isBlankText x = false) ∧
      (∃ query, parse query = .ok (.term ⟨textField, x⟩)) ∧
      ∀ w ∈ s.graph.labelled documentLabel, SearchesAgree b s v x w) ∧
    (∀ text limit rows s', documentsFor b text limit s = (.ok rows, s') → (ids rows).Nodup) ∧
    (∀ document rows s', entitiesIn document s = (.ok rows, s') → (ids (entities rows)).Nodup) ∧
    (∀ query limit rows s', keywords b query limit s = (.ok rows, s') → (ids rows).Nodup) ∧
    ∀ x, Text.isBlankText x = true →
      (∀ limit, documentsFor b (.str x) limit s
        = (.error (.request (.blank "entity_text")), s)) ∧
      entitiesIn (.str x) s = (.error (.request (.blank "document_id")), s) := by
  refine ⟨fun v hv => ?_, fun _ _ _ _ => H.nodup_documentsFor hids,
    fun _ _ _ => H.nodup_entitiesIn hids, fun _ _ _ _ => H.nodup_keywords hids,
    fun x hblank => ⟨fun limit => ?_, ?_⟩⟩
  · obtain ⟨e, he, hx⟩ := H.exists_stored_text hids hv
    have hparse : parse (render (.term ⟨textField, e.text⟩)) = .ok (.term ⟨textField, e.text⟩) :=
      parse_render_of_known (known_term.mpr List.mem_cons_self)
    refine ⟨e.text, hx, fun hread => ?_, ⟨_, hparse⟩,
      fun w hw => H.searchesAgree_of_labelled hids hs b hv hx hw⟩
    obtain ⟨given, hgiven⟩ := hread e he
    exact (Entity.not_blank_of_ofValue hgiven).1
  · exact Action.bind_of_error (needText_of_blank "entity_text" hblank s)
  · exact Action.bind_of_error (needText_of_blank "document_id" hblank s)

/-- The vertex of an entity is stored with the text of its first mention. -/
lemma exists_stored (H : History p h g) (hids : IdsApart p h) {e : Entity}
    (he : Entity.IsFirst (mentions p h) e) :
    ∃ v ∈ g.labelled entityLabel, v.id = e.id ∧ v.property "text" = .str e.text := by
  obtain ⟨first, time, hfirst, hid, hv⟩ := H.exists_entity_vertex hids he.mem
  obtain rfl := hfirst.eq_of_id_eq he hid
  exact ⟨_, List.mem_filter.mpr ⟨hv, isEntity_entityVertex first time⟩, rfl, rfl⟩

/-- What a recorded document mentions appears in it. -/
lemma edge_of_mention (H : History p h g) {d : Document} {r : Recorded} (hmem : (d, r) ∈ h)
    {e : Entity} (he : e ∈ d.entities) (hconfident : p.threshold ≤ e.confidence) :
    (e.id, d.id, appearsIn) ∈ g.edgeKeys :=
  (H.has_iff (k := .edge e.id d.id appearsIn)).mpr ⟨d, r, hmem, .appearance he hconfident⟩

/-- The letter spells the place in its own way, and the memo is found by this spelling. -/
theorem searches_agree_of_letter_and_memo :
    ∃ (g : Graph) (v : Vertex),
      History {} [(letter, recorded {} letter), (memo, recorded {} memo)] g ∧
      v.property "text" = .str "berlin" ∧
      (∃ rows s', documentsFor {} (.str "berlin") (.int 2) { graph := g } = (.ok rows, s') ∧
        some (.str "memo") ∈ ids rows ∧ (ids rows).Nodup) ∧
      (∃ rows s', entitiesIn (.str "memo") { graph := g } = (.ok rows, s') ∧
        some (.str v.id) ∈ ids (entities rows) ∧ (ids (entities rows)).Nodup) ∧
      ∃ rows s', keywords {} (.str "berlin") .null { graph := g } = (.ok rows, s') ∧
        some (.str "memo") ∈ ids rows ∧ (ids rows).Nodup := by
  obtain ⟨g, H⟩ : ∃ g, History {} [(letter, recorded {} letter), (memo, recorded {} memo)] g :=
    History.nil.exists_append [letter, memo]
  have hids := idsApart_of_letter_or_memo
    (h := [(letter, recorded {} letter), (memo, recorded {} memo)]) (by simp)
  have hroom : ∀ n : Int, 2 ≤ n → (g.labelled documentLabel).length ≤ min n 500 := by
    have hle := H.length_labelled_le hids
    rw [List.length_cons, List.length_singleton] at hle
    omega
  obtain ⟨hagree, hdocuments, hentities, hkeywords, -⟩ :=
    searches_agree (s := { graph := g }) H hids (.of_eq_nil rfl) {}
  -- the place is stored as the letter spells it, and the memo mentions it, too
  have hfirst : Entity.IsFirst
      (mentions {} [(letter, recorded {} letter), (memo, recorded {} memo)])
      ⟨⟨"berlin", "Organization"⟩, none, 0.9, none, none⟩ := by
    rw [mentions, List.flatMap_cons, confident_letter]
    exact (Entity.isFirst_cons_of_eq rfl).mpr rfl
  obtain ⟨v, hv, hid, htext⟩ := H.exists_stored hids hfirst
  have hmem : (memo, recorded {} memo) ∈
      [(letter, recorded {} letter), (memo, recorded {} memo)] :=
    List.mem_cons_of_mem _ List.mem_cons_self
  obtain ⟨w, hw, hwid⟩ := H.exists_document_vertex hids hmem
  have hedge : (v.id, w.id, appearsIn) ∈ g.edgeKeys := by
    have hin : ⟨⟨"Berlin", "Location"⟩, some "City", 0.9, some 4, some 6⟩ ∈ memo.entities :=
      List.mem_cons_of_mem _ (List.mem_cons_of_mem _ List.mem_cons_self)
    have hmention := H.edge_of_mention hmem hin (by decide +kernel)
    have hlower : Text.lower "Berlin" = Text.lower "berlin" := by decide
    have hsame : Mention.id ⟨"Berlin", "Location"⟩ = Mention.id ⟨"berlin", "Organization"⟩ := by
      rw [Mention.id, Mention.id, vertexId, hlower, vertexId]
    rw [hsame] at hmention
    rw [hid, hwid]
    exact hmention
  obtain ⟨x, hx, -, -, hall⟩ := hagree v hv
  obtain rfl : x = "berlin" := Value.str.inj (hx.symm.trans htext)
  obtain ⟨hdocs, hents, hkeys⟩ := hall w hw
  rw [hwid] at hents hedge hdocs hkeys
  obtain ⟨rows₁, s₁, hrun₁, hfound₁⟩ := hdocs rfl 2 (hroom 2 (Int.le_refl 2))
  obtain ⟨rows₂, s₂, hrun₂, hfound₂⟩ := hents rfl
  obtain ⟨rows₃, s₃, hrun₃, hfound₃⟩ := hkeys "berlin" .null 50 rfl rfl (hroom 50 (by decide))
  exact ⟨g, v, H, htext,
    ⟨rows₁, s₁, hrun₁, hfound₁.mpr hedge, hdocuments _ _ _ _ hrun₁⟩,
    ⟨rows₂, s₂, hrun₂, hfound₂.mpr hedge, hentities _ _ _ hrun₂⟩,
    ⟨rows₃, s₃, hrun₃, hfound₃.mpr hedge, hkeywords _ _ _ _ hrun₃⟩⟩

/-- A document whose id is a blank. -/
def untitled : Document where
  id := " "
  metadata := []
  entities := [⟨⟨"Ada", "Person"⟩, none, 0.9, none, none⟩]

/-- A document can be recorded under a blank. The person is then known to appear there, but the
document is refused when it is asked for. -/
theorem not_entitiesIn_of_untitled :
    ∃ (g : Graph) (v w : Vertex), History {} [(untitled, recorded {} untitled)] g ∧
      IdsApart {} [(untitled, recorded {} untitled)] ∧
      v ∈ g.labelled entityLabel ∧ v.property "text" = .str "Ada" ∧
      w ∈ g.labelled documentLabel ∧ w.id = " " ∧ (g.labelled documentLabel).length ≤ 1 ∧
      (v.id, w.id, appearsIn) ∈ g.edgeKeys ∧
      (∃ rows s', documentsFor {} (.str "Ada") (.int 1) { graph := g } = (.ok rows, s') ∧
        some (.str w.id) ∈ ids rows) ∧
      (∃ rows s', keywords {} (.str "Ada") (.int 1) { graph := g } = (.ok rows, s') ∧
        some (.str w.id) ∈ ids rows) ∧
      ¬ ∃ rows s', entitiesIn (.str w.id) { graph := g } = (.ok rows, s') := by
  obtain ⟨g, H⟩ : ∃ g, History {} [(untitled, recorded {} untitled)] g :=
    History.nil.exists_append [untitled]
  have hids : IdsApart {} [(untitled, recorded {} untitled)] :=
    idsApart_of_not_prefix (by decide)
  have hle : (g.labelled documentLabel).length ≤ 1 := H.length_labelled_le hids
  have hroom : (g.labelled documentLabel).length ≤ min (1 : Int) 500 := by omega
  have hconfident : Entity.confident (Policy.threshold {}) untitled.entities = untitled.entities :=
    List.filter_eq_self.mpr (by decide +kernel)
  have hfirst : Entity.IsFirst (mentions {} [(untitled, recorded {} untitled)])
      ⟨⟨"Ada", "Person"⟩, none, 0.9, none, none⟩ := by
    rw [mentions, List.flatMap_cons, hconfident]
    exact (Entity.isFirst_cons_of_eq rfl).mpr rfl
  obtain ⟨v, hv, hid, htext⟩ := H.exists_stored hids hfirst
  obtain ⟨w, hw, hwid⟩ := H.exists_document_vertex hids List.mem_cons_self
  have hedge : (v.id, w.id, appearsIn) ∈ g.edgeKeys := by
    rw [hid, hwid]
    exact H.edge_of_mention List.mem_cons_self List.mem_cons_self (by decide +kernel)
  obtain ⟨hdocs, -, hkeys⟩ := H.searchesAgree_of_labelled (s := { graph := g }) hids
    (.of_eq_nil rfl) {} hv htext hw
  obtain ⟨rows₁, s₁, hrun₁, hfound₁⟩ := hdocs rfl 1 hroom
  obtain ⟨rows₂, s₂, hrun₂, hfound₂⟩ := hkeys "Ada" (.int 1) 1 rfl rfl hroom
  refine ⟨g, v, w, H, hids, hv, htext, hw, hwid, hle, hedge, ⟨rows₁, s₁, hrun₁, hfound₁.mpr hedge⟩,
    ⟨rows₂, s₂, hrun₂, hfound₂.mpr hedge⟩, ?_⟩
  rintro ⟨rows, s', hrun⟩
  rw [hwid, entitiesIn, Action.bind_of_error (needText_of_blank "document_id" rfl _)] at hrun
  exact absurd (congrArg Prod.fst hrun) (by simp)

end Recording.History

end EntityGraph
