import EntityGraph.Proofs.Recording.Attempts
import EntityGraph.Proofs.Recording.Relationships
/-!
The order in which a document lists its entities.

Pairs are formed in the order of the list, and of several mentions of an entity the first one is
kept. Neither shows in the graph if the mentions of an entity agree on its category.

* `Consistent`: all confident mentions of an entity in a document have one category.
* `says_reordered_iff`: such a document says the same in every order.
* `record_of_perm`: so it adds the same vertices and edges to any graph, and reports the same number
  of pairs.
-/

namespace EntityGraph.Recording

variable {p : Policy} {d : Document} {es : List Entity} {r r' : Recorded} {s s' t t' : Session}
  {k : Key}

/-- The confident mentions of an entity in a document all have one category. -/
def Consistent (p : Policy) (d : Document) : Prop :=
  ∀ a ∈ Entity.confident p.threshold d.entities, ∀ b ∈ Entity.confident p.threshold d.entities,
    a.id = b.id → a.category = b.category

lemma confident_perm (h : es.Perm d.entities) :
    (Entity.confident p.threshold es).Perm (Entity.confident p.threshold d.entities) :=
  h.filter _

lemma Consistent.of_perm (hd : Consistent p d) (h : es.Perm d.entities) :
    Consistent p { d with entities := es } :=
  fun a ha b hb => hd a ((confident_perm h).subset ha) b ((confident_perm h).subset hb)

/-- The representative of an entity in one order has a counterpart in the other. -/
lemma Consistent.exists_isFirst (hd : Consistent p d) (h : es.Perm d.entities) {a : Entity}
    (ha : Entity.IsFirst (Entity.confident p.threshold es) a) :
    ∃ a', Entity.IsFirst (Entity.confident p.threshold d.entities) a' ∧ a.id = a'.id ∧
      a.category = a'.category := by
  have hmem := (confident_perm h).subset ha.mem
  obtain ⟨a', ha', hid⟩ := Entity.exists_isFirst hmem
  exact ⟨a', ha', hid.symm, hd a hmem a' ha'.mem hid.symm⟩

/-- What a document says in another order, it says. -/
lemma says_of_says_reordered (hd : Consistent p d) (h : es.Perm d.entities)
    (hk : Says p { d with entities := es } k) : Says p d k := by
  cases hk with
  | document => exact .document
  | entity he hconfident => exact .entity (h.subset he) hconfident
  | appearance he hconfident => exact .appearance (h.subset he) hconfident
  | @relationship a b r ha hb hne hr hlabel =>
      obtain ⟨a', ha', hida, hcata⟩ := hd.exists_isFirst h ha
      obtain ⟨b', hb', hidb, hcatb⟩ := hd.exists_isFirst h hb
      obtain ⟨hlabels, hsources, htargets⟩ := Relationship.resolve_congr hida hidb hcata hcatb
      rw [hr] at hlabels hsources htargets
      rw [hlabels, hsources, htargets]
      exact .relationship ha' hb' (by rwa [← hida, ← hidb]) rfl (by rwa [← hlabels])

/-- **A consistent document says the same in every order.** -/
lemma says_reordered_iff (hd : Consistent p d) (h : es.Perm d.entities) :
    Says p { d with entities := es } k ↔ Says p d k :=
  ⟨says_of_says_reordered hd h, says_of_says_reordered (hd.of_perm h) h.symm⟩

/-- The number of pairs is that of the distinct entities. -/
lemma pairs_recorded_of_perm (h : es.Perm d.entities) :
    (recorded p { d with entities := es }).pairs = (recorded p d).pairs := by
  have hlength := (Entity.ids_distinct_perm (confident_perm (p := p) h)).length_eq
  rw [List.length_map, List.length_map] at hlength
  simp only [recorded, firstMentions, Entity.length_pairs, hlength]

/-- What a recording has gained. -/
lemma exists_gains_record (p : Policy) (d : Document) (s : Session) :
    ∃ ids keys, s.graph.Gains ids keys (record p d s).2.graph :=
  (grows_record (.refl s.graph _)).exists_gains (keeps_record p d s)

/-- **The order of the mentions does not matter**: recorded on one graph, a document whose confident
mentions of an entity all have one category and the same document with its mentions in another order
add the same vertices and the same edges, and the same number of pairs is reported. -/
theorem record_of_perm (h : es.Perm d.entities) (hd : Consistent p d) (hgraph : t.graph = s.graph)
    (hrun : record p d s = (.ok r, s'))
    (hrun' : record p { d with entities := es } t = (.ok r', t')) :
    ∃ ids ids' keys keys', s.graph.Gains ids keys s'.graph ∧ s.graph.Gains ids' keys' t'.graph ∧
      ids.Perm ids' ∧ keys.Perm keys' ∧ r'.pairs = r.pairs := by
  obtain ⟨ids, keys, hgains⟩ := exists_gains_record p d s
  obtain ⟨ids', keys', hgains'⟩ := exists_gains_record p { d with entities := es } t
  rw [hrun] at hgains
  rw [hrun', hgraph] at hgains'
  have hsame : ∀ k, s'.graph.Has k ↔ t'.graph.Has k := by
    intro k
    rw [has_record_iff hrun, has_record_iff hrun', hgraph, says_reordered_iff hd h]
  obtain ⟨hids, hkeys⟩ := hgains.perm hgains' hsame
  refine ⟨ids, ids', keys, keys', hgains, hgains', hids, hkeys, ?_⟩
  rw [((record_performs p d).of_ok hrun).1, ((record_performs p _).of_ok hrun').1,
    pairs_recorded_of_perm h]

/-- A firm and a person who is mentioned twice, in two spellings. -/
def visit : Document where
  id := "visit"
  metadata := []
  entities :=
    [History.ada, { History.acme with text := "ACME" }, { History.ada with text := "ADA" }]

/-- The same from back to front. -/
def visitBackwards : Document := { visit with entities := visit.entities.reverse }

/-- In both orders the same is added, and the same number of pairs is reported. -/
theorem record_of_perm_of_visit :
    ∃ s' t' ids ids' keys keys', record {} visit {} = (.ok (recorded {} visit), s') ∧
      record {} visitBackwards {} = (.ok (recorded {} visitBackwards), t') ∧
      Graph.empty.Gains ids keys s'.graph ∧ Graph.empty.Gains ids' keys' t'.graph ∧
      ids.Perm ids' ∧ keys.Perm keys' ∧
      (recorded {} visitBackwards).pairs = (recorded {} visit).pairs := by
  have hall : ∀ a ∈ visit.entities, ∀ b ∈ visit.entities,
      a.category = b.category ∨ a.id ≠ b.id := by decide +kernel
  have hconsistent : Consistent {} visit := fun a ha b hb hid =>
    (hall a (mem_confident_iff.mp ha).1 b (mem_confident_iff.mp hb).1).resolve_right
      (not_not_intro hid)
  obtain ⟨s', hrun⟩ := (record_performs {} visit).succeeds (s := {}) (.of_eq_nil rfl)
  obtain ⟨t', hrun'⟩ := (record_performs {} visitBackwards).succeeds (s := {}) (.of_eq_nil rfl)
  obtain ⟨ids, ids', keys, keys', h⟩ :=
    record_of_perm (List.reverse_perm visit.entities) hconsistent rfl hrun hrun'
  exact ⟨s', t', ids, ids', keys, keys', hrun, hrun', h⟩

end EntityGraph.Recording
