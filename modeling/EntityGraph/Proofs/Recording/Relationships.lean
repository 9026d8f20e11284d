import EntityGraph.Proofs.Recording.History
import EntityGraph.Proofs.Relationship.Labels
import Mathlib.Data.List.Perm.Subperm
/-!
The relationships between two entities of the graph of a history.

Label and direction of a relationship are chosen anew for every document, from the categories that
this document gives to the entities. So two documents may leave two relationships between the same
entities.

* `Graph.relationshipsBetween`: the edges that join two vertices, in either direction, apart from
  appearances.
* `History.relationship_of_mem`, `History.exists_relationship`: they show how mentions of the two
  entities that stand together in a document are resolved.
* `History.relationships_of_label`: with one label there is at most one in each direction, and there
  are two exactly when two documents give the entities the same categories the other way round.
* `History.relationships_of_uniform`: if every entity has one category throughout, there is at most
  one at all.
-/

namespace EntityGraph

/-- A list of equal things that stands without repetition. -/
lemma length_le_one {α : Type} {xs : List α} (hnodup : xs.Nodup)
    (heq : ∀ x ∈ xs, ∀ y ∈ xs, x = y) : xs.length ≤ 1 := by
  match xs with
  | [] => exact Nat.zero_le 1
  | [_] => exact Nat.le_refl 1
  | x :: y :: rest =>
      have hsame : x = y := heq x (by simp) y (by simp)
      exact absurd hnodup (by simp [hsame])

/-- Whether an edge joins two vertices, in one direction or the other. -/
def Edge.connects (e : Edge) (x y : String) : Bool :=
  e.source == x && e.target == y || e.source == y && e.target == x

/-- An edge has the label and the ends of a relationship. -/
structure Edge.Shows (e : Edge) (r : Relationship.Resolved) : Prop where
  label : e.label = r.label
  source : e.source = r.source.id
  target : e.target = r.target.id

namespace Graph

variable {g : Graph} {x y : String} {e e' : Edge}

/-- The relationships between two vertices: all edges that join them, apart from appearances. -/
def relationshipsBetween (g : Graph) (x y : String) : List Edge :=
  g.edges.filter fun e => !e.isAppearance && e.connects x y

lemma mem_relationshipsBetween_iff :
    e ∈ g.relationshipsBetween x y ↔ e ∈ g.edges ∧ e.label ≠ Relationship.appearsIn ∧
      (e.source = x ∧ e.target = y ∨ e.source = y ∧ e.target = x) := by
  simp [relationshipsBetween, Edge.isAppearance, Edge.connects]

/-- Edges are told apart by their ends and labels. -/
lemma Simple.eq_of_edges (h : g.Simple) (he : e ∈ g.edges) (he' : e' ∈ g.edges)
    (hsource : e.source = e'.source) (htarget : e.target = e'.target)
    (hlabel : e.label = e'.label) : e = e' :=
  List.inj_on_of_nodup_map h.edges he he' (by rw [hsource, htarget, hlabel])

lemma Simple.nodup_edges (h : g.Simple) : g.edges.Nodup := .of_map _ h.edges

lemma Simple.nodup_relationshipsBetween (h : g.Simple) : (g.relationshipsBetween x y).Nodup :=
  h.nodup_edges.filter _

/-- The relationships with one label between two vertices. -/
def relationshipsOf (g : Graph) (label x y : String) : List Edge :=
  (g.relationshipsBetween x y).filter fun e => e.label == label

lemma relationshipsOf_comm (g : Graph) (label x y : String) :
    g.relationshipsOf label x y = g.relationshipsOf label y x := by
  simp only [relationshipsOf, relationshipsBetween, Edge.connects, Bool.or_comm]

lemma mem_relationshipsOf_iff {label : String} :
    e ∈ g.relationshipsOf label x y ↔ e ∈ g.relationshipsBetween x y ∧ e.label = label := by
  simp [relationshipsOf]

/-- Between two vertices there is one relationship with one label in each direction, at most. -/
lemma Simple.nodup_sources (h : g.Simple) (hne : x ≠ y) (label : String) :
    ((g.relationshipsOf label x y).map Edge.source).Nodup := by
  refine List.Nodup.map_on ?_ (h.nodup_relationshipsBetween.filter _)
  intro e he e' he' hsource
  obtain ⟨hbetween, hlabel⟩ := mem_relationshipsOf_iff.mp he
  obtain ⟨hbetween', hlabel'⟩ := mem_relationshipsOf_iff.mp he'
  obtain ⟨hedge, -, hends⟩ := mem_relationshipsBetween_iff.mp hbetween
  obtain ⟨hedge', -, hends'⟩ := mem_relationshipsBetween_iff.mp hbetween'
  refine h.eq_of_edges hedge hedge' hsource ?_ (hlabel.trans hlabel'.symm)
  rcases hends with ⟨hs, ht⟩ | ⟨hs, ht⟩ <;> rcases hends' with ⟨hs', ht'⟩ | ⟨hs', ht'⟩
  · rw [ht, ht']
  · exact absurd (hs.symm.trans (hsource.trans hs')) hne
  · exact absurd (hs'.symm.trans (hsource.symm.trans hs)) hne
  · rw [ht, ht']

lemma sources_subset (label : String) :
    (g.relationshipsOf label x y).map Edge.source ⊆ [x, y] := by
  intro z hz
  obtain ⟨e, he, rfl⟩ := List.mem_map.mp hz
  obtain ⟨-, -, hends⟩ := mem_relationshipsBetween_iff.mp (mem_relationshipsOf_iff.mp he).1
  rcases hends with ⟨hs, -⟩ | ⟨hs, -⟩
  · simp [hs]
  · simp [hs]

/-- So there are two at most, and if there are two, there is one in each direction. -/
lemma Simple.length_relationshipsOf (h : g.Simple) (hne : x ≠ y) (label : String) :
    (g.relationshipsOf label x y).length ≤ 2 ∧ ((g.relationshipsOf label x y).length = 2 ↔
      x ∈ (g.relationshipsOf label x y).map Edge.source ∧
        y ∈ (g.relationshipsOf label x y).map Edge.source) := by
  have hsubperm := (h.nodup_sources hne label).subperm (sources_subset (g := g) label)
  have hle := hsubperm.length_le
  rw [List.length_map] at hle
  refine ⟨hle, fun heq => ?_, fun ⟨hx, hy⟩ => Nat.le_antisymm hle ?_⟩
  · have hperm := hsubperm.perm_of_length_le (by simp [heq])
    exact ⟨hperm.mem_iff.mpr (by simp), hperm.mem_iff.mpr (by simp)⟩
  · have hpair : [x, y].Nodup := by simpa using hne
    have hback := (hpair.subperm (List.cons_subset.mpr ⟨hx, by simpa using hy⟩)).length_le
    rwa [List.length_map] at hback

end Graph

namespace Recording

open Relationship

variable {p : Policy} {d : Document} {r : Recorded} {g : Graph} {h : List (Document × Recorded)}
  {a b a' b' : Entity} {x y : String} {e : Edge}

/-- Two mentions represent their entities in one of the recorded documents. -/
def Together (p : Policy) (h : List (Document × Recorded)) (a b : Entity) : Prop :=
  ∃ d r, (d, r) ∈ h ∧ Entity.IsFirst (Entity.confident p.threshold d.entities) a ∧
    Entity.IsFirst (Entity.confident p.threshold d.entities) b

/-- Every entity has one category throughout the recorded documents. -/
def Uniform (p : Policy) (h : List (Document × Recorded)) : Prop :=
  ∀ a ∈ mentions p h, ∀ b ∈ mentions p h, a.id = b.id → a.category = b.category

lemma Together.symm (hab : Together p h a b) : Together p h b a := by
  obtain ⟨d, r, hmem, ha, hb⟩ := hab
  exact ⟨d, r, hmem, hb, ha⟩

lemma Together.mentioned (hab : Together p h a b) : a ∈ mentions p h := by
  obtain ⟨d, r, hmem, ha, -⟩ := hab
  exact List.mem_flatMap.mpr ⟨(d, r), hmem, ha.mem⟩

namespace History

/-- A relationship in the graph shows how two mentions in a recorded document are resolved. -/
lemma relationship_of_mem (H : History p h g)
    (he : e ∈ g.relationshipsBetween x y) :
    ∃ a b, Together p h a b ∧ a.id = x ∧ b.id = y ∧ e.Shows (resolve a.toMention b.toMention) ∧
      (e.label = coOccurs → p.persistGeneric = true) := by
  obtain ⟨hedge, hlabel, hends⟩ := Graph.mem_relationshipsBetween_iff.mp he
  have hhas : g.Has (.edge e.source e.target e.label) := List.mem_map_of_mem hedge
  obtain ⟨d, r, hmem, hsaid⟩ := H.has_iff.mp hhas
  rcases says_edge_iff.mp hsaid with ⟨a, -, -, heq⟩ | ⟨a, b, rel, ha, hb, hid, rfl, hmere, heq⟩
  · exact absurd (congrArg (·.2.2) heq) hlabel
  obtain ⟨hsource, htarget, hlabel⟩ : _ ∧ _ ∧ _ := by simpa using heq
  have hshows : e.Shows (resolve a.toMention b.toMention) := ⟨hlabel, hsource, htarget⟩
  have hab : Together p h a b := ⟨d, r, hmem, ha, hb⟩
  rw [← hlabel] at hmere
  -- the mentions may stand in the document in either order
  have hids : a.id = x ∧ b.id = y ∨ a.id = y ∧ b.id = x := by
    rcases resolve_joins a.toMention b.toMention with ⟨hs, ht⟩ | ⟨hs, ht⟩ <;>
      rw [hsource, htarget, hs, ht] at hends
    · exact hends
    · exact hends.symm.imp And.symm And.symm
  rcases hids with ⟨hax, hby⟩ | ⟨hay, hbx⟩
  · exact ⟨a, b, hab, hax, hby, hshows, hmere⟩
  · rw [resolve_swap hid] at hshows
    exact ⟨b, a, hab.symm, hbx, hay, hshows, hmere⟩

/-- Two mentions in a recorded document have left the relationship to which they are resolved. -/
lemma exists_relationship (H : History p h g) (hab : Together p h a b) (hne : a.id ≠ b.id)
    (hmere : (resolve a.toMention b.toMention).label = coOccurs → p.persistGeneric = true) :
    ∃ e ∈ g.relationshipsBetween a.id b.id, e.Shows (resolve a.toMention b.toMention) := by
  obtain ⟨d, r, hmem, ha, hb⟩ := hab
  have hhas := H.has_iff.mpr ⟨d, r, hmem, .relationship ha hb hne rfl hmere⟩
  obtain ⟨e, hedge, hkey⟩ := List.mem_map.mp hhas
  obtain ⟨hsource, htarget, hlabel⟩ : _ ∧ _ ∧ _ := by simpa using hkey
  refine ⟨e, ?_, hlabel, hsource, htarget⟩
  rw [Graph.mem_relationshipsBetween_iff, hlabel, hsource, htarget]
  refine ⟨hedge, resolve_label_ne_appearsIn _ _, ?_⟩
  rcases resolve_joins a.toMention b.toMention with ⟨hs, ht⟩ | ⟨hs, ht⟩
  · rw [hs, ht]
    exact .inl ⟨rfl, rfl⟩
  · rw [hs, ht]
    exact .inr ⟨rfl, rfl⟩

/-- There is a relationship in one direction if a document says so. -/
lemma mem_sources_iff (H : History p h g) (hne : x ≠ y) (label : String) :
    x ∈ (g.relationshipsOf label x y).map Edge.source ↔ ∃ a b, Together p h a b ∧ a.id = x ∧
      b.id = y ∧ resolve a.toMention b.toMention = ⟨label, a.toMention, b.toMention⟩ ∧
      (label = coOccurs → p.persistGeneric = true) := by
  constructor
  · intro hx
    obtain ⟨e, he, hsource⟩ := List.mem_map.mp hx
    obtain ⟨hbetween, rfl⟩ := Graph.mem_relationshipsOf_iff.mp he
    obtain ⟨a, b, hab, hax, hby, hshows, hmere⟩ := H.relationship_of_mem hbetween
    refine ⟨a, b, hab, hax, hby, ?_, hmere⟩
    rcases resolve_joins a.toMention b.toMention with ⟨hs, ht⟩ | ⟨hs, -⟩
    · exact Resolved.eq_mk hshows.label.symm hs ht
    · have hid := hshows.source
      rw [hs, hsource] at hid
      exact absurd (hid.trans hby) hne
  · rintro ⟨a, b, hab, rfl, rfl, hr, hmere⟩
    obtain ⟨e, he, hshows⟩ := H.exists_relationship hab hne (by rwa [hr])
    rw [hr] at hshows
    exact List.mem_map.mpr ⟨e, Graph.mem_relationshipsOf_iff.mpr ⟨he, hshows.label⟩, hshows.source⟩

lemma mem_sources_iff_swap (H : History p h g) (hne : x ≠ y) (label : String) :
    y ∈ (g.relationshipsOf label x y).map Edge.source ↔ ∃ a b, Together p h a b ∧ a.id = x ∧
      b.id = y ∧ resolve b.toMention a.toMention = ⟨label, b.toMention, a.toMention⟩ ∧
      (label = coOccurs → p.persistGeneric = true) := by
  rw [Graph.relationshipsOf_comm, H.mem_sources_iff hne.symm]
  constructor
  · rintro ⟨a, b, hab, ha, hb, hr⟩
    exact ⟨b, a, hab.symm, hb, ha, hr⟩
  · rintro ⟨a, b, hab, ha, hb, hr⟩
    exact ⟨b, a, hab.symm, hb, ha, hr⟩

/-- **Relationships with one label**: between two entities there is at most one in each direction,
so there are two at most. There are two exactly if two documents give the entities the same
categories the other way round, and the label is no fallback. -/
theorem relationships_of_label (H : History p h g) (hne : x ≠ y) (label : String) :
    ((g.relationshipsOf label x y).map Edge.source).Nodup ∧
    (g.relationshipsOf label x y).length ≤ 2 ∧
    ((g.relationshipsOf label x y).length = 2 ↔ label ≠ sameCategory ∧ label ≠ coOccurs ∧
      ∃ a b a' b', Together p h a b ∧ Together p h a' b' ∧ a.id = x ∧ b.id = y ∧ a'.id = x ∧
        b'.id = y ∧ a.category = b'.category ∧ b.category = a'.category ∧
        (resolve a.toMention b.toMention).label = label) := by
  obtain ⟨hle, htwo⟩ := H.simple.length_relationshipsOf hne label
  refine ⟨H.simple.nodup_sources hne label, hle, ?_⟩
  rw [htwo, H.mem_sources_iff hne, H.mem_sources_iff_swap hne]
  constructor
  · rintro ⟨⟨a, b, hab, hax, hby, hr, -⟩, a', b', hab', hax', hby', hr', -⟩
    have hid : a.id ≠ b.id := by rwa [hax, hby]
    obtain ⟨hsame, hmere, hac, hbc⟩ := exchanged_of_both_ways hid (hax'.trans hax.symm)
      (hby'.trans hby.symm) hr hr'
    exact ⟨hsame, hmere, a, b, a', b', hab, hab', hax, hby, hax', hby', hac, hbc, by rw [hr]⟩
  · rintro ⟨hsame, hmere, a, b, a', b', hab, hab', hax, hby, hax', hby', hac, hbc, hlabel⟩
    have hwanted : label = coOccurs → p.persistGeneric = true := fun heq => absurd heq hmere
    have hid : a.id ≠ b.id := by rwa [hax, hby]
    rcases resolve_joins a.toMention b.toMention with ⟨hs, ht⟩ | ⟨hs, ht⟩
    · have hr := Resolved.eq_mk hlabel hs ht
      have hr' := resolve_of_categories hr hsame hmere hac hbc
      exact ⟨⟨a, b, hab, hax, hby, hr, hwanted⟩, a', b', hab', hax', hby', hr', hwanted⟩
    · rw [resolve_swap hid] at hlabel hs ht
      have hr := Resolved.eq_mk hlabel hs ht
      have hr' := resolve_of_categories hr hsame hmere hbc hac
      exact ⟨⟨a', b', hab', hax', hby', hr', hwanted⟩, a, b, hab, hax, hby, hr, hwanted⟩

/-- A person. -/
def ada : Entity := ⟨⟨"Ada", "Person"⟩, none, 0.9, none, none⟩

/-- The firm in which the person works. -/
def acme : Entity := ⟨⟨"Acme", "Organization"⟩, none, 0.9, none, none⟩

/-- The person and the firm. -/
def staff : Document where
  id := "staff"
  metadata := []
  entities := [ada, acme]

/-- The same names, each with the category of the other. -/
def mixup : Document where
  id := "mixup"
  metadata := []
  entities := [{ ada with category := "Organization" }, { acme with category := "Person" }]

lemma ada_id_ne_acme_id : ada.id ≠ acme.id := by
  decide +kernel

/-- In both documents the two names stand together. -/
lemma together_staff_and_mixup :
    Together {} [(staff, recorded {} staff), (mixup, recorded {} mixup)] ada acme ∧
    Together {} [(staff, recorded {} staff), (mixup, recorded {} mixup)]
      { ada with category := "Organization" } { acme with category := "Person" } := by
  have hconfident : ∀ d ∈ [staff, mixup],
      Entity.confident (Policy.threshold {}) d.entities = d.entities := by
    have hall : ∀ d ∈ [staff, mixup], ∀ e ∈ d.entities, 0.7 ≤ e.confidence := by decide +kernel
    exact fun d hd => List.filter_eq_self.mpr fun e he => decide_eq_true (hall d hd e he)
  have hpair : ∀ {a b : Entity}, a.id = ada.id → b.id = acme.id →
      Entity.IsFirst [a, b] a ∧ Entity.IsFirst [a, b] b := by
    intro a b ha hb
    have hne : a.id ≠ b.id := by
      rw [ha, hb]
      exact ada_id_ne_acme_id
    exact ⟨(Entity.isFirst_cons_of_eq rfl).mpr rfl, (Entity.isFirst_cons_of_ne hne).mpr
      ((Entity.isFirst_cons_of_eq rfl).mpr rfl)⟩
  have hsecond : ∀ {α : Type} (x y : α), y ∈ [x, y] := fun x y =>
    List.mem_cons_of_mem x List.mem_cons_self
  refine ⟨⟨staff, _, List.mem_cons_self, ?_⟩, mixup, _, hsecond _ _, ?_⟩
  · rw [hconfident staff List.mem_cons_self]
    exact hpair rfl rfl
  · rw [hconfident mixup (hsecond _ _)]
    exact hpair rfl rfl

/-- The documents leave two relationships, and this is traced back to the categories. -/
theorem relationships_of_label_of_mixup :
    ∃ g, History {} [(staff, recorded {} staff), (mixup, recorded {} mixup)] g ∧
      (g.relationshipsOf "works_for" ada.id acme.id).length = 2 := by
  have H := History.nil.extendEach (p := {}) (s := {}) (.of_eq_nil rfl) [staff, mixup]
  obtain ⟨-, -, htwo⟩ := H.relationships_of_label ada_id_ne_acme_id "works_for"
  refine ⟨_, H, htwo.mpr ⟨by decide, by decide, ada, acme, _, _, together_staff_and_mixup.1,
    together_staff_and_mixup.2, rfl, rfl, rfl, rfl, rfl, rfl, ?_⟩⟩
  decide +kernel

/-- Two entities of the graph can each work for the other. -/
theorem two_relationships_of_mixup :
    ∃ g, History {} [(staff, recorded {} staff), (mixup, recorded {} mixup)] g ∧
      ada.id ∈ g.vertexIds ∧ acme.id ∈ g.vertexIds ∧ ada.id ≠ acme.id ∧
      ¬ (g.relationshipsOf "works_for" ada.id acme.id).length ≤ 1 := by
  have H := History.nil.extendEach (p := {}) (s := {}) (.of_eq_nil rfl) [staff, mixup]
  have hvertex : ∀ e ∈ staff.entities,
      e.id ∈ (recordEach {} [staff, mixup] {}).graph.vertexIds := by
    intro e he
    have hconfident : ∀ e ∈ staff.entities, 0.7 ≤ e.confidence := by decide +kernel
    exact (H.has_iff (k := .vertex e.id)).mpr
      ⟨staff, _, List.mem_cons_self, .entity he (hconfident e he)⟩
  obtain ⟨hstaff, hmixup⟩ := together_staff_and_mixup
  have hforth := (H.mem_sources_iff ada_id_ne_acme_id "works_for").mpr
    ⟨ada, acme, hstaff, rfl, rfl, by decide +kernel, fun h => absurd h (by decide)⟩
  have hback := (H.mem_sources_iff_swap ada_id_ne_acme_id "works_for").mpr
    ⟨_, _, hmixup, rfl, rfl, by decide +kernel, fun h => absurd h (by decide)⟩
  refine ⟨_, H, hvertex ada List.mem_cons_self, hvertex acme (List.mem_cons_of_mem _
    List.mem_cons_self), ada_id_ne_acme_id, ?_⟩
  rw [(H.simple.length_relationshipsOf ada_id_ne_acme_id "works_for").2.mpr ⟨hforth, hback⟩]
  decide

/-! ### One category throughout -/

/-- If every entity has one category throughout, its mentions are all resolved in the same way. -/
lemma alike_of_uniform (hu : Uniform p h) (ha : a ∈ mentions p h) (hb : b ∈ mentions p h)
    (ha' : a' ∈ mentions p h) (hb' : b' ∈ mentions p h) (hida : a.id = a'.id)
    (hidb : b.id = b'.id) :
    (resolve a.toMention b.toMention).Alike (resolve a'.toMention b'.toMention) :=
  resolve_congr hida hidb (hu a ha a' ha' hida) (hu b hb b' hb' hidb)

/-- So two entities have one relationship at most. -/
lemma length_relationshipsBetween_le (H : History p h g) (hu : Uniform p h) (x y : String) :
    (g.relationshipsBetween x y).length ≤ 1 := by
  refine length_le_one H.simple.nodup_relationshipsBetween fun e he e' he' => ?_
  obtain ⟨a, b, hab, hax, hby, hshows, -⟩ := H.relationship_of_mem he
  obtain ⟨a', b', hab', hax', hby', hshows', -⟩ := H.relationship_of_mem he'
  obtain ⟨hlabel, hsource, htarget⟩ := alike_of_uniform hu hab.mentioned hab.symm.mentioned
    hab'.mentioned hab'.symm.mentioned (hax.trans hax'.symm) (hby.trans hby'.symm)
  refine H.simple.eq_of_edges (Graph.mem_relationshipsBetween_iff.mp he).1
    (Graph.mem_relationshipsBetween_iff.mp he').1 ?_ ?_ ?_
  · rw [hshows.source, hsource, hshows'.source]
  · rw [hshows.target, htarget, hshows'.target]
  · rw [hshows.label, hlabel, hshows'.label]

/-- **If every entity has one category throughout**, two entities have one relationship at most, and
they have one exactly if a document mentions them both, unless they merely occur together and such
relationships are not wanted. -/
theorem relationships_of_uniform (H : History p h g) (hu : Uniform p h) (hne : x ≠ y) :
    (g.relationshipsBetween x y).length ≤ 1 ∧
    ((g.relationshipsBetween x y).length = 1 ↔ ∃ d r, (d, r) ∈ h ∧ ∃ a ∈ d.entities,
      ∃ b ∈ d.entities, p.threshold ≤ a.confidence ∧ p.threshold ≤ b.confidence ∧ a.id = x ∧
        b.id = y ∧ ((resolve a.toMention b.toMention).label = coOccurs →
          p.persistGeneric = true)) := by
  have hle := H.length_relationshipsBetween_le hu x y
  refine ⟨hle, fun hone => ?_, ?_⟩
  · obtain ⟨e, heq⟩ := List.length_eq_one_iff.mp hone
    have he : e ∈ g.relationshipsBetween x y := by
      rw [heq]
      exact List.mem_cons_self
    obtain ⟨a, b, ⟨d, r, hmem, ha, hb⟩, hax, hby, hshows, hmere⟩ := H.relationship_of_mem he
    obtain ⟨hae, hat⟩ := mem_confident_iff.mp ha.mem
    obtain ⟨hbe, hbt⟩ := mem_confident_iff.mp hb.mem
    refine ⟨d, r, hmem, a, hae, b, hbe, hat, hbt, hax, hby, ?_⟩
    rwa [← hshows.label]
  · rintro ⟨d, r, hmem, a, hae, b, hbe, hat, hbt, rfl, rfl, hmere⟩
    -- the relationship is that of the first mentions, which are resolved in the same way
    obtain ⟨a', ha', hida⟩ := Entity.exists_isFirst (mem_confident_iff.mpr ⟨hae, hat⟩)
    obtain ⟨b', hb', hidb⟩ := Entity.exists_isFirst (mem_confident_iff.mpr ⟨hbe, hbt⟩)
    have hab' : Together p h a' b' := ⟨d, r, hmem, ha', hb'⟩
    have ha : a ∈ mentions p h := mem_mentions_iff.mpr ⟨d, r, hmem, hae, hat⟩
    have hb : b ∈ mentions p h := mem_mentions_iff.mpr ⟨d, r, hmem, hbe, hbt⟩
    obtain ⟨hlabel, -, -⟩ := alike_of_uniform hu hab'.mentioned hab'.symm.mentioned ha hb hida hidb
    obtain ⟨e, he, -⟩ := H.exists_relationship hab' (by rwa [hida, hidb]) (by rwa [hlabel])
    rw [hida, hidb] at he
    exact Nat.le_antisymm hle (List.length_pos_of_mem he)

/-- Firm and person once more, in another order and another spelling. -/
def report : Document where
  id := "report"
  metadata := []
  entities := [{ acme with text := "ACME" }, { ada with text := "ADA" }]

/-- Person and firm have one relationship, in whatever order they are mentioned. -/
theorem relationships_of_uniform_of_report :
    ∃ g, History {} [(staff, recorded {} staff), (report, recorded {} report)] g ∧
      (g.relationshipsBetween ada.id acme.id).length = 1 := by
  have H := History.nil.extendEach (p := {}) (s := {}) (.of_eq_nil rfl) [staff, report]
  have hall : ∀ a ∈ mentions {} [(staff, recorded {} staff), (report, recorded {} report)],
      ∀ b ∈ mentions {} [(staff, recorded {} staff), (report, recorded {} report)],
      a.category = b.category ∨ a.id ≠ b.id := by decide +kernel
  have hu : Uniform {} [(staff, recorded {} staff), (report, recorded {} report)] :=
    fun a ha b hb hid => (hall a ha b hb).resolve_right (not_not_intro hid)
  obtain ⟨-, hone⟩ := H.relationships_of_uniform hu ada_id_ne_acme_id
  refine ⟨_, H, hone.mpr ⟨staff, _, List.mem_cons_self, _, List.mem_cons_self, _,
    List.mem_cons_of_mem _ List.mem_cons_self, ?_, ?_, rfl, rfl, ?_⟩⟩
  · decide +kernel
  · decide +kernel
  · decide +kernel

end History

end Recording

end EntityGraph
