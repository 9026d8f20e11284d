import EntityGraph.Proofs.Graph.Connections
import EntityGraph.Proofs.Recording.Relationships
import EntityGraph.Proofs.Search.Appearances
/-!
The search for common connections.

Texts are told apart by their identities, once when the search collects them and once more by the
graph. So the answer depends on the set of the identities, and these on the lower-cased texts.

* `seedsFrom_of_filled`: what the search collects from texts that are not blank.
* `common_of_faultless`, `common_of_too_few`: what it returns, by the number of different
  identities.
* `History.stored`, `History.nodup_titles`: in the graph of a history every entity has a text of its
  own.
* `History.mem_neighbours_iff`: what is next to an entity there is joined to it by a relationship,
  unless one of the two is a document.
* `History.mem_connected_iff`, `History.pairwise_connected`: the entities that are connected to some
  texts, and their order.
* `History.shared_neighbours`: so the search returns the entities with relationships to all of the
  given ones.
-/

namespace EntityGraph

/-- The identities depend on the set of the lower-cased texts. -/
lemma mem_map_vertexId_congr {texts texts' : List String}
    (h : ∀ x, x ∈ texts'.map Text.lower ↔ x ∈ texts.map Text.lower) (id : String) :
    id ∈ texts'.map vertexId ↔ id ∈ texts.map vertexId := by
  have hlower : ∀ ts : List String, ts.map vertexId
      = (ts.map Text.lower).map fun x => "ent-" ++ Digest.sha256Hex x.toUTF8.toList := by
    intro ts
    rw [List.map_map]
    rfl
  rw [hlower, hlower, List.mem_map, List.mem_map]
  exact exists_congr fun x => and_congr_left' (h x)

namespace Search

open EntityGraph.Action

variable {s : Session} {texts : List String} {b : Bounds} {n : Int}

/-- The identities of texts that are not blank are collected, each of them once, and nothing else
happens. -/
lemma seedsFrom_of_filled (hfilled : ∀ t ∈ texts, Text.isBlankText t = false)
    {seen : List String} (hseen : seen.Nodup) (s : Session) :
    ∃ ids, seedsFrom seen (texts.map .str) s = (.ok ids, s) ∧ ids.Nodup ∧
      ∀ id, id ∈ ids ↔ id ∈ seen ∨ id ∈ texts.map vertexId := by
  induction texts generalizing seen with
  | nil => exact ⟨seen, rfl, hseen, by simp⟩
  | cons t texts ih =>
      obtain ⟨ht, hrest⟩ := List.forall_mem_cons.mp hfilled
      have hstep : (if vertexId t ∈ seen then seen else seen ++ [vertexId t]).Nodup := by
        split_ifs with hknown
        · exact hseen
        · rw [← List.concat_eq_append]
          exact hseen.concat hknown
      obtain ⟨ids, hrun, hnodup, hids⟩ := ih hrest hstep
      refine ⟨ids, ?_, hnodup, fun id => ?_⟩
      · rw [List.map_cons, seedsFrom, bind_of_ok (needText_of_not_blank "entity text" ht s)]
        exact hrun
      · rw [hids, List.map_cons, List.mem_cons]
        split_ifs with hknown
        · refine ⟨Or.imp_right .inr, ?_⟩
          rintro (hid | rfl | hid)
          · exact .inl hid
          · exact .inl hknown
          · exact .inr hid
        · rw [List.mem_append, List.mem_singleton, or_assoc]

/-- What the search does with the identities that it has collected. -/
lemma common_of_seeds {items : List Value} {ids : List String}
    (h : seedsFrom [] items s = (.ok ids, s)) (b : Bounds) (limit : Value) :
    common b (.list items) limit s
      = (if ids.length < 2 then Action.fail (.request .tooFewTexts) else b.limit limit >>=
          fun limit => runFlat "find_common_connections" (.commonConnections ids limit)) s := by
  rw [common, bind_of_ok (a := pure items) rfl]
  exact bind_of_ok h

/-- The search returns the entities that are joined to all of the given ones, if at least two
different ones are given. -/
lemma common_of_faultless (hfilled : ∀ t ∈ texts, Text.isBlankText t = false)
    (hdistinct : ∃ t ∈ texts, ∃ u ∈ texts, vertexId t ≠ vertexId u) (hn : 1 ≤ n)
    (hb : n ≤ b.maxLimit) (hg : s.graph.Stored) (hs : s.Faultless) :
    ∃ s', common b (.list (texts.map .str)) (.int n) s = (.ok ((Graph.vertexRows
      ((s.graph.connected (texts.map vertexId)).take n.toNat)).map Row.flatten), s') := by
  obtain ⟨ids, hseeds, -, hids⟩ := seedsFrom_of_filled hfilled List.nodup_nil s
  have hmany : ¬ ids.length < 2 := by
    intro hfew
    obtain ⟨t, ht, u, hu, hne⟩ := hdistinct
    have htin := (hids (vertexId t)).mpr (.inr (List.mem_map_of_mem ht))
    have huin := (hids (vertexId u)).mpr (.inr (List.mem_map_of_mem hu))
    obtain ⟨id, rfl⟩ := List.length_eq_one_iff.mp
      (Nat.le_antisymm (Nat.le_of_lt_succ hfew) (List.length_pos_of_mem htin))
    exact hne ((List.mem_singleton.mp htin).trans (List.mem_singleton.mp huin).symm)
  obtain ⟨s₁, hbound, hgraph, hfaults⟩ := b.limit_of_pos hn s
  rw [Int.min_eq_left hb] at hbound
  have hs₁ : s₁.Faultless := by rwa [Session.Faultless, hfaults]
  rw [← hgraph] at hg
  have hsame : ∀ id, id ∈ ids ↔ id ∈ texts.map vertexId := fun id =>
    (hids id).trans (or_iff_right List.not_mem_nil)
  have hexecute := Graph.execute_commonConnections hg ids (by omega : 0 ≤ n)
  rw [Graph.connected_congr hsame, hgraph] at hexecute
  rw [common_of_seeds hseeds, if_neg hmany, bind_of_ok hbound]
  exact runFlat_of_faultless (t := .commonConnections ids n) "find_common_connections" hs₁
    (by rw [hgraph]; exact hexecute)

/-- If no two different ones are given, the search is refused before the graph is asked. -/
lemma common_of_too_few (hfilled : ∀ t ∈ texts, Text.isBlankText t = false)
    (hsame : ∀ t ∈ texts, ∀ u ∈ texts, vertexId t = vertexId u) (b : Bounds) (limit : Value)
    (s : Session) :
    common b (.list (texts.map .str)) limit s = (.error (.request .tooFewTexts), s) := by
  obtain ⟨ids, hseeds, hnodup, hids⟩ := seedsFrom_of_filled hfilled List.nodup_nil s
  have hfew : ids.length < 2 := by
    refine Nat.lt_succ_of_le (length_le_one hnodup fun id hid id' hid' => ?_)
    simp only [hids, List.not_mem_nil, false_or, List.mem_map] at hid hid'
    obtain ⟨t, ht, rfl⟩ := hid
    obtain ⟨u, hu, rfl⟩ := hid'
    exact hsame t ht u hu
  rw [common_of_seeds hseeds, if_pos hfew]
  rfl

end Search

namespace Recording.History

open Relationship Search

variable {p : Policy} {h : List (Document × Recorded)} {g : Graph} {v w : Vertex}
  {texts : List String} {t : String}

/-- Every entity is stored with a text. -/
lemma stored (H : History p h g) (hids : IdsApart p h) : g.Stored := by
  intro v hv
  obtain ⟨e, -, htext⟩ := H.exists_stored_text hids hv
  exact ⟨e.text, htext⟩

/-- No two entities are stored with the same text. -/
lemma nodup_titles (H : History p h g) (hids : IdsApart p h)
    (hnamed : ∀ e ∈ mentions p h, e.text ≠ "") :
    ((g.labelled entityLabel).map Vertex.title).Nodup := by
  have hvertices : g.vertices.Nodup := .of_map _ H.simple.vertices
  refine (hvertices.filter _).map_on fun v hv w hw htitle => ?_
  obtain ⟨e, he, hv'⟩ := H.exists_stored_text hids hv
  obtain ⟨f, hf, hw'⟩ := H.exists_stored_text hids hw
  rw [Graph.title_eq hv' (hnamed e he), Graph.title_eq hw' (hnamed f hf)] at htitle
  refine List.inj_on_of_nodup_map H.simple.vertices (List.mem_filter.mp hv).1
    (List.mem_filter.mp hw).1 ?_
  rw [H.id_of_hasText hids hv (Vertex.hasText_of_property hv'), htitle,
    H.id_of_hasText hids hw (Vertex.hasText_of_property hw')]

/-- What is next to an entity that is no document is joined to it by a relationship. -/
lemma mem_neighbours_iff (H : History p h g) (hids : IdsApart p h)
    (hv : v ∈ g.labelled entityLabel) (ht : ∀ x ∈ h, x.1.id ≠ vertexId t) :
    v.id ∈ g.neighbours (vertexId t) ↔ g.relationshipsBetween v.id (vertexId t) ≠ [] := by
  have hentity : ∀ x ∈ h, x.1.id ≠ v.id := by
    obtain ⟨e, time, hfirst, rfl⟩ := H.entityVertex_of_labelled hids hv
    exact fun x hx => hids x hx e hfirst.mem
  rw [Graph.mem_neighbours_iff_exists]
  constructor
  · rintro ⟨e, he, hends⟩
    have hrelated : e.label ≠ appearsIn := by
      intro hlabel
      have hhas : g.Has (.edge e.source e.target appearsIn) := by
        rw [← hlabel]
        exact List.mem_map_of_mem he
      obtain ⟨d, r, hmem, hsaid⟩ := H.has_iff.mp hhas
      obtain ⟨hdocument, -⟩ := says_appearance_iff.mp hsaid
      -- one of the two ends would be the document
      rcases hends with ⟨-, htarget⟩ | ⟨-, htarget⟩
      · exact hentity (d, r) hmem (hdocument.trans htarget)
      · exact ht (d, r) hmem (hdocument.trans htarget)
    exact List.ne_nil_of_mem (Graph.mem_relationshipsBetween_iff.mpr ⟨he, hrelated, hends.symm⟩)
  · intro hne
    obtain ⟨e, hbetween⟩ := List.exists_mem_of_ne_nil _ hne
    obtain ⟨he, -, hends⟩ := Graph.mem_relationshipsBetween_iff.mp hbetween
    exact ⟨e, he, hends.symm⟩

/-- What has a relationship is there. -/
lemma mem_vertexIds_of_relationship (H : History p h g) {x y : String}
    (hne : g.relationshipsBetween x y ≠ []) : y ∈ g.vertexIds := by
  obtain ⟨e, he⟩ := List.exists_mem_of_ne_nil _ hne
  obtain ⟨a, b, hab, -, rfl, -, -⟩ := H.relationship_of_mem he
  obtain ⟨d, r, hmem, hin, hconfident⟩ := mem_mentions_iff.mp hab.symm.mentioned
  exact (H.has_iff (k := .vertex b.id)).mpr ⟨d, r, hmem, .entity hin hconfident⟩

section Connections

variable (H : History p h g) (hids : IdsApart p h)

include H hids

/-- **Which entities are connected** to all of some texts that are the identities of no documents. -/
lemma mem_connected_iff (hne : texts ≠ []) (hseeds : ∀ t ∈ texts, ∀ x ∈ h, x.1.id ≠ vertexId t) :
    v ∈ g.connected (texts.map vertexId) ↔ v ∈ g.labelled entityLabel ∧
      ∀ t ∈ texts, v.id ≠ vertexId t ∧ g.relationshipsBetween v.id (vertexId t) ≠ [] := by
  simp only [Graph.mem_connected_iff, List.mem_map, not_exists, not_and, forall_exists_index,
    and_imp, forall_apply_eq_imp_iff₂]
  constructor
  · rintro ⟨-, -, hv, hother, hnext⟩
    exact ⟨hv, fun t ht => ⟨Ne.symm (hother t ht),
      (H.mem_neighbours_iff hids hv (hseeds t ht)).mp (hnext t ht)⟩⟩
  · rintro ⟨hv, hall⟩
    exact ⟨mt List.map_eq_nil_iff.mp hne, fun t ht => H.mem_vertexIds_of_relationship (hall t ht).2,
      hv, fun t ht => Ne.symm (hall t ht).1,
      fun t ht => (H.mem_neighbours_iff hids hv (hseeds t ht)).mpr (hall t ht).2⟩

/-- They are in the order of their stored texts. -/
lemma pairwise_connected (hnamed : ∀ e ∈ mentions p h, e.text ≠ "") (seeds : List String) :
    (g.connected seeds).Pairwise fun v w =>
      ∃ a b, v.property "text" = .str a ∧ w.property "text" = .str b ∧ a < b := by
  refine (Graph.pairwise_connected (H.nodup_titles hids hnamed) seeds).imp_of_mem
    fun {v w} hv hw hlt => ?_
  obtain ⟨-, -, hv, -⟩ := Graph.mem_connected_iff.mp hv
  obtain ⟨-, -, hw, -⟩ := Graph.mem_connected_iff.mp hw
  obtain ⟨e, he, hv'⟩ := H.exists_stored_text hids hv
  obtain ⟨f, hf, hw'⟩ := H.exists_stored_text hids hw
  rw [Graph.title_eq hv' (hnamed e he), Graph.title_eq hw' (hnamed f hf)] at hlt
  exact ⟨e.text, f.text, hv', hw', hlt⟩

end Connections

/-- **Common connections are the shared neighbours.** Let no document have the identity of an entity
that is mentioned or given, let no entity have an empty text, and let entities be asked for that are
connected to all of some given ones. If at least two different ones are given, the search returns
the first ones, in the order of their stored texts, of the entities other than the given ones that
have a relationship with each of these, in whatever direction; so it returns nothing if one of them
is not there. It returns the same for all texts with the same lower-cased texts among them. If no
two different ones are given, it is refused and the graph is not asked. -/
theorem shared_neighbours (H : History p h g)
    (hids : ∀ x ∈ h, ∀ t ∈ (mentions p h).map (·.text) ++ texts, x.1.id ≠ vertexId t)
    (hnamed : ∀ e ∈ mentions p h, e.text ≠ "")
    (hfilled : ∀ t ∈ texts, Text.isBlankText t = false) :
    ((∃ t ∈ texts, ∃ u ∈ texts, vertexId t ≠ vertexId u) → ∃ found : List Vertex,
      found.Pairwise (fun v w => ∃ a b, v.property "text" = .str a ∧ w.property "text" = .str b ∧
        a < b) ∧
      (∀ v, v ∈ found ↔ v ∈ g.labelled entityLabel ∧ ∀ t ∈ texts,
        v.id ≠ vertexId t ∧ g.relationshipsBetween v.id (vertexId t) ≠ []) ∧
      ((∃ t ∈ texts, vertexId t ∉ g.vertexIds) → found = []) ∧
      ∀ texts' : List String, (∀ t ∈ texts', Text.isBlankText t = false) →
        (∀ x, x ∈ texts'.map Text.lower ↔ x ∈ texts.map Text.lower) →
        ∀ (b : Bounds) (s : Session) (n : Int), 1 ≤ n → n ≤ b.maxLimit → s.graph = g →
          s.Faultless → ∃ s', common b (.list (texts'.map .str)) (.int n) s
            = (.ok ((found.take n.toNat).map fun v => Row.flatten v.row), s')) ∧
    ((∀ t ∈ texts, ∀ u ∈ texts, vertexId t = vertexId u) →
      ∀ (b : Bounds) (limit : Value) (s : Session),
        common b (.list (texts.map .str)) limit s = (.error (.request .tooFewTexts), s)) := by
  have hapart : IdsApart p h := fun x hx e he =>
    hids x hx e.text (List.mem_append_left _ (List.mem_map_of_mem he))
  have hseeds : ∀ t ∈ texts, ∀ x ∈ h, x.1.id ≠ vertexId t := fun t ht x hx =>
    hids x hx t (List.mem_append_right _ ht)
  refine ⟨fun hdistinct => ?_, fun hsame => common_of_too_few hfilled hsame⟩
  obtain ⟨t₀, ht₀, u₀, hu₀, hne⟩ := hdistinct
  have hmem := fun v => H.mem_connected_iff hapart (v := v) (List.ne_nil_of_mem ht₀) hseeds
  refine ⟨g.connected (texts.map vertexId), H.pairwise_connected hapart hnamed _, hmem, ?_, ?_⟩
  · rintro ⟨t, ht, hunknown⟩
    refine List.eq_nil_iff_forall_not_mem.mpr fun v hv => hunknown ?_
    exact H.mem_vertexIds_of_relationship (((hmem v).mp hv).2 t ht).2
  · intro texts' hfilled' hlower b s n hn hb hg hs
    subst hg
    have hsame := mem_map_vertexId_congr hlower
    obtain ⟨t, ht, htid⟩ := List.mem_map.mp ((hsame _).mpr (List.mem_map_of_mem ht₀))
    obtain ⟨u, hu, huid⟩ := List.mem_map.mp ((hsame _).mpr (List.mem_map_of_mem hu₀))
    have hdistinct' : ∃ t ∈ texts', ∃ u ∈ texts', vertexId t ≠ vertexId u :=
      ⟨t, ht, u, hu, by rwa [htid, huid]⟩
    obtain ⟨s', hrun⟩ := common_of_faultless hfilled' hdistinct' hn hb (H.stored hapart) hs
    rw [Graph.connected_congr hsame, Graph.vertexRows, List.map_map] at hrun
    exact ⟨s', hrun⟩

/-- A colleague of the person, in the same firm. -/
def roster : Document where
  id := "roster"
  metadata := []
  entities := [⟨⟨"Bob", "Person"⟩, none, 0.9, none, none⟩, acme]

/-- The firm is what the two people have in common, in whatever order and spelling they are given.
The person alone, in two spellings, is refused. -/
theorem shared_neighbours_of_staff_and_roster :
    ∃ g, History {} [(staff, recorded {} staff), (roster, recorded {} roster)] g ∧
      (∃ rows, rows.map (fun row => (Fields.get? row "text").bind Value.text?) = [some "Acme"] ∧
        (∃ s', common {} (.list [.str "Ada", .str "Bob"]) (.int 10) { graph := g }
          = (.ok rows, s')) ∧
        ∃ s', common {} (.list [.str "BOB", .str "ada", .str "Bob"]) (.int 10) { graph := g }
          = (.ok rows, s')) ∧
      common {} (.list [.str "Ada", .str "ADA"]) (.int 10) { graph := g }
        = (.error (.request .tooFewTexts), { graph := g }) := by
  have H : History {} [(staff, recorded {} staff), (roster, recorded {} roster)] _ :=
    History.nil.extendEach (p := {}) (s := {}) (.of_eq_nil rfl) [staff, roster]
  have hfound : ((common {} (.list [.str "Ada", .str "Bob"]) (.int 10)
      { graph := (recordEach {} [staff, roster] {}).graph }).1.toOption.map fun rows =>
        rows.map fun row => (Fields.get? row "text").bind Value.text?) = some [some "Acme"] := by
    decide +kernel
  -- from here on only the history matters
  obtain ⟨g, hg⟩ : ∃ g, (recordEach {} [staff, roster] {}).graph = g := ⟨_, rfl⟩
  rw [hg] at H hfound
  have hids : ∀ ts : List String, ∀ x ∈ [(staff, recorded {} staff), (roster, recorded {} roster)],
      ∀ t ∈ ts, x.1.id ≠ vertexId t := by
    intro ts x hx t _
    rcases List.mem_pair.mp hx with rfl | rfl
    · exact ne_vertexId (by decide)
    · exact ne_vertexId (by decide)
  have hnamed : ∀ e ∈ mentions {} [(staff, recorded {} staff), (roster, recorded {} roster)],
      e.text ≠ "" := by decide +kernel
  obtain ⟨hanswer, -⟩ :=
    H.shared_neighbours (hids (_ ++ ["Ada", "Bob"])) hnamed (by decide)
  obtain ⟨found, -, -, -, hrun⟩ := hanswer (by decide +kernel)
  obtain ⟨-, hrefused⟩ :=
    H.shared_neighbours (hids (_ ++ ["Ada", "ADA"])) hnamed (by decide)
  obtain ⟨s₁, hrun₁⟩ := hrun ["Ada", "Bob"] (by decide) (fun _ => Iff.rfl) {} { graph := g } 10
    (by decide) (by decide) rfl (.of_eq_nil rfl)
  have hlower : ["BOB", "ada", "Bob"].map Text.lower = ["bob", "ada", "bob"] ∧
      ["Ada", "Bob"].map Text.lower = ["ada", "bob"] := by decide
  have hsame : ∀ x, x ∈ ["BOB", "ada", "Bob"].map Text.lower ↔
      x ∈ ["Ada", "Bob"].map Text.lower := by
    intro x
    rw [hlower.1, hlower.2]
    simp only [List.mem_cons, List.not_mem_nil, or_false]
    tauto
  obtain ⟨s₂, hrun₂⟩ := hrun ["BOB", "ada", "Bob"] (by decide) hsame {} { graph := g } 10
    (by decide) (by decide) rfl (.of_eq_nil rfl)
  refine ⟨g, H, ⟨_, ?_, ⟨s₁, hrun₁⟩, s₂, hrun₂⟩, hrefused (by decide +kernel) {} (.int 10) _⟩
  have hrows : common {} (.list [.str "Ada", .str "Bob"]) (.int 10) { graph := g } = _ := hrun₁
  rw [hrows] at hfound
  exact Option.some.inj hfound

end Recording.History

end EntityGraph
