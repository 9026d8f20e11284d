import EntityGraph.Proofs.Graph.Distance
import EntityGraph.Proofs.Search.Run
/-!
The search for related entities.

* `Graph.Simple.mem_related_comm`: to be related does not depend on the direction in which one asks.
* `related_of_faultless`: what the search returns when no fault strikes.
* `related_nearest`: related entities are the nearest ones, whatever calls have led to the graph.
-/

namespace EntityGraph

namespace Graph

variable {g : Graph} {seed : String} {hops : Nat} {v w : Vertex}

/-- To be related does not depend on the direction in which one asks. -/
lemma Simple.mem_related_comm (h : g.Simple) (hv : v ∈ g.labelled entityLabel)
    (hw : w ∈ g.labelled entityLabel) : v ∈ g.related w.id hops ↔ w ∈ g.related v.id hops := by
  have hid : ∀ {u}, u ∈ g.labelled entityLabel → u.id ∈ g.vertexIds := fun hu =>
    List.mem_map_of_mem (List.mem_filter.mp hu).1
  simp only [h.mem_related_iff, hv, hw, hid hv, hid hw, true_and, exists_path_iff,
    SimpleGraph.edist_comm (u := w.id), ne_comm (a := w.id)]

/-- The first of the entities within a number of hops. -/
lemma execute_relatedEntities (seed : String) (hops : Int) {limit : Int} (hlimit : 0 ≤ limit) :
    g.execute (.relatedEntities seed hops limit)
      = .ok (g, vertexRows ((g.related seed hops.toNat).take limit.toNat)) := by
  show Except.ok (g, vertexRows (g.relatedEntities seed hops limit)) = _
  rw [relatedEntities, limited, if_pos hlimit]

end Graph

namespace Search

open EntityGraph.Action EntityGraph.Graph

variable {s now : Session} {ts : List Traversal}

/-- The search by a text returns the entities that are related to its identity. -/
lemma related_of_faultless (b : Bounds) {x : String} (hx : Text.isBlankText x = false)
    {hops limit : Int} (hhops : 1 ≤ hops) (hlimit : 1 ≤ limit) (hb : 0 ≤ b.maxLimit)
    (hs : s.Faultless) :
    ∃ s', related b (.str x) (.int hops) (.int limit) s = (.ok ((vertexRows
      ((s.graph.related (vertexId x) (min hops b.maxHops).toNat).take
        (min limit b.maxLimit).toNat)).map Row.flatten), s') := by
  obtain ⟨s₁, hrun₁, hgraph₁, hfaults₁⟩ := b.hops_of_pos hhops s
  obtain ⟨s₂, hrun₂, hgraph₂, hfaults₂⟩ := b.limit_of_pos hlimit s₁
  have hs₂ : s₂.Faultless := by rwa [Session.Faultless, hfaults₂, hfaults₁]
  rw [related, bind_of_ok (needText_of_not_blank "entity_text" hx s), bind_of_ok hrun₁,
    bind_of_ok hrun₂, ← hgraph₁, ← hgraph₂]
  exact runFlat_of_faultless "find_related_entities" hs₂
    (execute_relatedEntities (vertexId x) (min hops b.maxHops) (by omega))

/-- **Related entities are the nearest ones.** After any calls, let entities be asked for that are
related to a seed within a number of hops. The graph returns the first of those other than the seed
to which there is a path of at most so many edges, each followed in either direction, and nothing
for a seed that is not there. They are in the order of their distances, and of their ids where these
are the same. So more hops only add entities at the end, and of two entities each is related to the
other one, or none is. The search by a text asks in this way for the identity of the text. -/
theorem related_nearest (hs : s.graph = .empty) (hnow : executeEach ts s = now) (seed : String)
    {hops limit : Int} (hhops : 1 ≤ hops) (hlimit : 1 ≤ limit) :
    now.graph.execute (.relatedEntities seed hops limit)
      = .ok (now.graph, vertexRows ((now.graph.related seed hops.toNat).take limit.toNat)) ∧
    (∀ v, v ∈ now.graph.related seed hops.toNat ↔
      v ∈ now.graph.labelled entityLabel ∧ v.id ≠ seed ∧ seed ∈ now.graph.vertexIds ∧
        ∃ p : now.graph.undirected.Path seed v.id, (p.1.length : Int) ≤ hops) ∧
    ((now.graph.related seed hops.toNat).Pairwise fun v w => now.graph.Nearer seed v.id w.id) ∧
    (∀ more, hops ≤ more →
      now.graph.related seed hops.toNat <+: now.graph.related seed more.toNat) ∧
    (∀ v ∈ now.graph.labelled entityLabel, ∀ w ∈ now.graph.labelled entityLabel,
      v ∈ now.graph.related w.id hops.toNat ↔ w ∈ now.graph.related v.id hops.toNat) ∧
    ∀ (b : Bounds) (x : String), Text.isBlankText x = false → vertexId x = seed →
      hops ≤ b.maxHops → limit ≤ b.maxLimit → now.Faultless →
      ∃ s', related b (.str x) (.int hops) (.int limit) now = (.ok ((vertexRows
        ((now.graph.related seed hops.toNat).take limit.toNat)).map Row.flatten), s') := by
  have hstart : s.graph.WellFormed := by
    rw [hs]
    exact .empty
  have hsimple : now.graph.Simple := by
    rw [← hnow]
    exact (wellFormed_executeEach hstart ts).toSimple
  refine ⟨execute_relatedEntities seed hops (by omega), fun v => ?_, pairwise_related _ _ _,
    fun more hmore => related_prefix_of_le (Int.toNat_le_toNat hmore),
    fun v hv w hw => hsimple.mem_related_comm hv hw, fun b x hx hseed hb hb' hfaultless => ?_⟩
  · simp only [hsimple.mem_related_iff, Int.le_toNat (by omega : 0 ≤ hops)]
  · have hrun := related_of_faultless b hx hhops hlimit (by omega) hfaultless
    rwa [hseed, Int.min_eq_left hb, Int.min_eq_left hb'] at hrun

/-- Two people appear in a memo. -/
def memoOfTwo : List Traversal :=
  [.upsertVertex "ada" "entity" [], .upsertVertex "memo" "document" [],
    .upsertVertex "bob" "entity" [], .upsertEdge "appears_in" "ada" "memo" [],
    .upsertEdge "appears_in" "bob" "memo" []]

/-- Each of the two is related to the other one within two hops, but not within one. -/
theorem related_nearest_of_memoOfTwo :
    ∃ (now : Session) (v w : Vertex), executeEach memoOfTwo {} = now ∧
      v.id = "ada" ∧ w.id = "bob" ∧
      now.graph.execute (.relatedEntities "ada" 2 1) = .ok (now.graph, [w.row]) ∧
      v ∈ now.graph.related "bob" 2 ∧
      (∃ p : now.graph.undirected.Path "ada" "bob", (p.1.length : Int) ≤ 2) ∧
      ¬ ∃ p : now.graph.undirected.Path "ada" "bob", (p.1.length : Int) ≤ 1 := by
  obtain ⟨now, hnow⟩ : ∃ now, executeEach memoOfTwo {} = now := ⟨_, rfl⟩
  obtain ⟨hrows, hmem, -, -, hcomm, -⟩ :=
    related_nearest rfl hnow "ada" (by decide : (1 : Int) ≤ 2) (by decide : (1 : Int) ≤ 1)
  obtain ⟨-, hnext, -⟩ :=
    related_nearest rfl hnow "ada" (by decide : (1 : Int) ≤ 1) (by decide : (1 : Int) ≤ 1)
  have hfound : (now.graph.related "ada" 2).map Vertex.id = ["bob"] := by
    rw [← hnow]
    decide +kernel
  have hnone : now.graph.related "ada" 1 = [] := by
    rw [← List.map_eq_nil_iff (f := Vertex.id), ← hnow]
    decide +kernel
  obtain ⟨w, hw, hid⟩ := List.map_eq_singleton_iff.mp hfound
  have hw' : w ∈ now.graph.related "ada" 2 := by
    rw [hw]
    exact List.mem_singleton_self w
  obtain ⟨hlabelled, hne, hseed, hpath⟩ := (hmem w).mp hw'
  obtain ⟨v, hv, hid'⟩ : ∃ v ∈ now.graph.labelled entityLabel, v.id = "ada" := by
    refine List.mem_map.mp ?_
    rw [← hnow]
    decide +kernel
  have hrow : vertexRows ((now.graph.related "ada" (Int.toNat 2)).take (Int.toNat 1))
      = [w.row] := by
    rw [show Int.toNat 2 = 2 from rfl, hw]
    rfl
  refine ⟨now, v, w, hnow, hid', hid, hrow ▸ hrows, ?_, hid ▸ hpath, fun hshort => ?_⟩
  · have hback := (hcomm v hv w hlabelled).mpr
    rw [hid, hid'] at hback
    exact hback hw'
  · have hnear := (hnext w).mpr ⟨hlabelled, hne, hseed, hid ▸ hshort⟩
    rw [Int.toNat_one, hnone] at hnear
    exact absurd hnear List.not_mem_nil

end Search

end EntityGraph
