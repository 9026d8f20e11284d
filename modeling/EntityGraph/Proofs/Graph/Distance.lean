import EntityGraph.Proofs.Graph.Reading
import EntityGraph.Proofs.Graph.Sorting
import Mathlib.Combinatorics.SimpleGraph.Metric
/-!
Entities by their distance from a given vertex.

* `Graph.undirected`: the edges without their labels and directions. Distances are those of this
  graph.
* `edist_eq_succ_iff`: what is one step further away is next to what is not.
* `Explored`: the search has seen what is within a distance and holds on to what is at it.
  `Explored.next` is the step, `mem_rings_iff` and `pairwise_rings` are the run.
* `rings_prefix_of_le`: more hops only add to what has been found.
* `Simple.mem_related_iff`, `pairwise_related`, `related_prefix_of_le`: the same for the entities
  found.
-/

namespace EntityGraph

/-! ### Distances in a graph -/

section Distance

variable {V : Type} {G : SimpleGraph V} {u v s : V} {d k n : Nat}

/-- What is one step further away is next to what is not, and is not nearer itself. -/
lemma edist_eq_succ_iff : G.edist s v = (d + 1 : Nat) ↔
    (∃ u, G.edist s u = d ∧ G.Adj u v) ∧ ¬ G.edist s v ≤ d := by
  have hstep : ∀ {u}, G.Adj u v → G.edist s v ≤ G.edist s u + 1 := by
    intro u hadj
    have htriangle := G.edist_triangle (u := s) (v := u) (w := v)
    rwa [SimpleGraph.edist_eq_one_iff_adj.mpr hadj] at htriangle
  constructor
  · intro hv
    have hfar : ¬ G.edist s v ≤ d := by
      rw [hv, ENat.natCast_le_natCast]
      exact Nat.not_succ_le_self d
    refine ⟨?_, hfar⟩
    rw [SimpleGraph.edist_comm] at hv
    obtain ⟨p, hp⟩ := SimpleGraph.exists_walk_of_edist_eq_coe hv
    cases p with
    | nil => exact absurd hp (by simp)
    | @cons _ u _ hadj q =>
        have hle : G.edist s u ≤ d := by
          rw [SimpleGraph.edist_comm, ← Nat.succ.inj hp]
          exact q.edist_le
        refine ⟨u, le_antisymm hle ?_, hadj.symm⟩
        by_contra hlt
        exact hfar ((hstep hadj.symm).trans (Order.add_one_le_of_lt (not_le.mp hlt)))
  · rintro ⟨⟨u, hu, hadj⟩, hfar⟩
    refine le_antisymm ?_ (Order.add_one_le_of_lt (not_le.mp hfar))
    rw [Nat.cast_succ, ← hu]
    exact hstep hadj

/-- Where there is nothing at one distance, there is nothing at a greater one. -/
lemma edist_ne_of_lt (hnone : ∀ v, G.edist s v ≠ (d + 1 : Nat)) (hk : d < k) (v : V) :
    G.edist s v ≠ k := by
  induction k, hk using Nat.le_induction generalizing v with
  | base => exact hnone v
  | succ k _ ih =>
      intro hv
      obtain ⟨⟨u, hu, -⟩, -⟩ := edist_eq_succ_iff.mp hv
      exact ih u hu

/-- There is a short path exactly if the distance is short. -/
lemma exists_path_iff [DecidableEq V] :
    (∃ p : G.Path u v, p.1.length ≤ n) ↔ ∃ k ≤ n, G.edist u v = k := by
  constructor
  · rintro ⟨p, hp⟩
    obtain ⟨k, hk⟩ := ENat.ne_top_iff_exists.mp
      (SimpleGraph.edist_ne_top_iff_reachable.mpr p.1.reachable)
    have hle := p.1.edist_le
    rw [← hk, ENat.natCast_le_natCast] at hle
    exact ⟨k, hle.trans hp, hk.symm⟩
  · rintro ⟨k, hk, hdist⟩
    obtain ⟨p, hp⟩ := SimpleGraph.exists_walk_of_edist_eq_coe hdist
    exact ⟨p.toPath, (p.length_bypass_le_length.trans_eq hp).trans hk⟩

end Distance

namespace Graph

variable {g : Graph} {seed a b u : String} {d hops more : Nat} {last seen : List String}
  {v w : Vertex}

/-- The edges without their labels and directions. -/
def undirected (g : Graph) : SimpleGraph String :=
  SimpleGraph.fromRel fun a b => ∃ e ∈ g.edges, e.source = a ∧ e.target = b

lemma mem_neighbours_iff (hne : a ≠ b) : b ∈ g.neighbours a ↔ g.undirected.Adj a b := by
  rw [mem_neighbours_iff_exists, undirected, SimpleGraph.fromRel_adj]
  constructor
  · rintro ⟨e, he, hends | hends⟩
    · exact ⟨hne, .inl ⟨e, he, hends⟩⟩
    · exact ⟨hne, .inr ⟨e, he, hends⟩⟩
  · rintro ⟨-, ⟨e, he, hends⟩ | ⟨e, he, hends⟩⟩
    · exact ⟨e, he, .inl hends⟩
    · exact ⟨e, he, .inr hends⟩

/-- One id comes before another one: it is nearer to the seed, or it is as near and the smaller of
the two. -/
def Nearer (g : Graph) (seed a b : String) : Prop :=
  g.undirected.edist seed a < g.undirected.edist seed b ∨
    g.undirected.edist seed a = g.undirected.edist seed b ∧ a < b

/-! ### The search -/

/-- What has been seen last and what has been seen altogether when the search is at a distance. -/
structure Explored (g : Graph) (seed : String) (d : Nat) (last seen : List String) : Prop where
  last : ∀ a, a ∈ last ↔ g.undirected.edist seed a = d
  seen : ∀ a, a ∈ seen ↔ g.undirected.edist seed a ≤ d

/-- What is next to the last ring and has not been seen. -/
def nextRing (g : Graph) (last seen : List String) : List String :=
  (last.flatMap g.neighbours).eraseDups.filter fun id => !seen.contains id

lemma rings_succ (g : Graph) (hops : Nat) (last seen : List String) :
    g.rings (hops + 1) last seen = if (g.nextRing last seen).isEmpty then [] else
      g.nextRing last seen :: g.rings hops (g.nextRing last seen)
        (seen ++ g.nextRing last seen) := rfl

lemma nodup_nextRing (g : Graph) (last seen : List String) : (g.nextRing last seen).Nodup :=
  (nodup_eraseDups _).filter _

namespace Explored

lemma start (g : Graph) (seed : String) : g.Explored seed 0 [seed] [seed] where
  last a := by
    rw [List.mem_singleton, Nat.cast_zero, SimpleGraph.edist_eq_zero_iff, eq_comm]
  seen a := by
    rw [List.mem_singleton, Nat.cast_zero, nonpos_iff_eq_zero, SimpleGraph.edist_eq_zero_iff,
      eq_comm]

/-- The next ring is at the next distance. -/
lemma mem_nextRing_iff (h : g.Explored seed d last seen) :
    a ∈ g.nextRing last seen ↔ g.undirected.edist seed a = (d + 1 : Nat) := by
  simp only [nextRing, List.mem_filter, List.mem_eraseDups, List.mem_flatMap, Bool.not_eq_true',
    List.contains_eq_mem, decide_eq_false_iff_not, h.last, h.seen, edist_eq_succ_iff]
  refine and_congr_left fun hfar => exists_congr fun u => and_congr_right fun hu => ?_
  refine mem_neighbours_iff ?_
  rintro rfl
  exact hfar (le_of_eq hu)

/-- **One round of the search** leads to the next distance. -/
theorem next (h : g.Explored seed d last seen) : g.Explored seed (d + 1) (g.nextRing last seen)
    (seen ++ g.nextRing last seen) where
  last _ := h.mem_nextRing_iff
  seen a := by
    rw [List.mem_append, h.seen, h.mem_nextRing_iff, le_iff_lt_or_eq (b := ((d + 1 : Nat) : ℕ∞))]
    exact or_congr (ENat.lt_add_one_iff (ENat.natCast_ne_top d)).symm Iff.rfl

/-- **What the search finds** is what is further away and within the number of hops. -/
theorem mem_rings_iff (h : g.Explored seed d last seen) : a ∈ (g.rings hops last seen).flatten ↔
    ∃ k, d < k ∧ k ≤ d + hops ∧ g.undirected.edist seed a = k := by
  induction hops generalizing d last seen with
  | zero =>
      simp only [rings, List.flatten_nil, List.not_mem_nil, false_iff]
      rintro ⟨k, hlt, hle, -⟩
      omega
  | succ hops ih =>
      rw [rings_succ]
      split
      · rename_i hempty
        have hnone : ∀ a, g.undirected.edist seed a ≠ (d + 1 : Nat) := by
          intro a ha
          rw [← h.mem_nextRing_iff, List.isEmpty_iff.mp hempty] at ha
          exact absurd ha List.not_mem_nil
        simp only [List.flatten_nil, List.not_mem_nil, false_iff]
        rintro ⟨k, hlt, -, hk⟩
        exact edist_ne_of_lt hnone hlt a hk
      · rw [List.flatten_cons, List.mem_append, h.mem_nextRing_iff, ih h.next]
        constructor
        · rintro (ha | ⟨k, hlt, hle, ha⟩)
          · exact ⟨d + 1, by omega, by omega, ha⟩
          · exact ⟨k, by omega, by omega, ha⟩
        · rintro ⟨k, hlt, hle, ha⟩
          obtain rfl | hlt : k = d + 1 ∨ d + 1 < k := by omega
          · exact .inl ha
          · exact .inr ⟨k, hlt, by omega, ha⟩

/-- **What the search finds is in order**, by distance and then by id. -/
theorem pairwise_rings (h : g.Explored seed d last seen) :
    ((g.rings hops last seen).flatMap sorted).Pairwise (g.Nearer seed) := by
  induction hops generalizing d last seen with
  | zero => exact .nil
  | succ hops ih =>
      rw [rings_succ]
      split
      · exact .nil
      · rw [List.flatMap_cons, List.pairwise_append]
        refine ⟨?_, ih h.next, fun a ha b hb => .inl ?_⟩
        · refine (pairwise_sorted (g.nodup_nextRing last seen)).imp_of_mem fun ha hb hlt => ?_
          rw [mem_sorted, h.mem_nextRing_iff] at ha hb
          exact .inr ⟨ha.trans hb.symm, hlt⟩
        · rw [mem_sorted, h.mem_nextRing_iff] at ha
          rw [mem_flatMap_sorted, h.next.mem_rings_iff] at hb
          obtain ⟨k, hlt, -, hk⟩ := hb
          rw [ha, hk, ENat.natCast_lt_natCast]
          exact hlt

end Explored

/-- More hops only add to what has been found. -/
lemma rings_prefix_of_le (h : hops ≤ more) :
    g.rings hops last seen <+: g.rings more last seen := by
  induction hops generalizing more last seen with
  | zero => exact List.nil_prefix
  | succ hops ih =>
      obtain ⟨more, rfl⟩ : ∃ n, more = n + 1 := ⟨more - 1, by omega⟩
      rw [rings_succ, rings_succ]
      split
      · exact List.prefix_rfl
      · exact (List.prefix_cons_inj _).mpr (ih (Nat.le_of_succ_le_succ h))

/-! ### Entities -/

lemma related_of_mem (hseed : seed ∈ g.vertexIds) : g.related seed hops
    = (((g.rings hops [seed] [seed]).flatMap sorted).filterMap g.vertex?).filter
      Vertex.isEntity := by
  rw [related, if_pos (hasVertex_iff.mpr hseed)]

lemma related_of_not_mem (hseed : seed ∉ g.vertexIds) : g.related seed hops = [] := by
  rw [related, if_neg (mt hasVertex_iff.mp hseed)]

/-- **The entities found** are those other than the seed to which there is a short path. -/
theorem Simple.mem_related_iff (h : g.Simple) : v ∈ g.related seed hops ↔
    v ∈ g.labelled entityLabel ∧ v.id ≠ seed ∧ seed ∈ g.vertexIds ∧
      ∃ p : g.undirected.Path seed v.id, p.1.length ≤ hops := by
  by_cases hseed : seed ∈ g.vertexIds
  · rw [related_of_mem hseed, List.mem_filter, List.mem_filterMap, exists_path_iff]
    simp only [mem_flatMap_sorted, (Explored.start g seed).mem_rings_iff, h.vertex?_eq_some_iff]
    constructor
    · rintro ⟨⟨-, ⟨k, hpos, hle, hk⟩, hv, rfl⟩, hentity⟩
      refine ⟨List.mem_filter.mpr ⟨hv, hentity⟩, ?_, hseed, k, by omega, hk⟩
      rintro rfl
      rw [SimpleGraph.edist_self] at hk
      exact absurd (Nat.cast_eq_zero.mp hk.symm) (by omega)
    · rintro ⟨hv, hne, -, k, hle, hk⟩
      obtain ⟨hv, hentity⟩ := List.mem_filter.mp hv
      have hpos : 0 < k := by
        refine Nat.pos_of_ne_zero fun hzero => hne ?_
        rw [hzero, Nat.cast_zero, SimpleGraph.edist_eq_zero_iff] at hk
        exact hk.symm
      exact ⟨⟨v.id, ⟨k, hpos, by omega, hk⟩, hv, rfl⟩, hentity⟩
  · rw [related_of_not_mem hseed]
    simp [hseed]

/-- **The entities found are in order**, by distance and then by id. -/
theorem pairwise_related (g : Graph) (seed : String) (hops : Nat) :
    (g.related seed hops).Pairwise fun v w => g.Nearer seed v.id w.id := by
  by_cases hseed : seed ∈ g.vertexIds
  · rw [related_of_mem hseed]
    refine List.Pairwise.filter _ ?_
    refine (Explored.start g seed).pairwise_rings.filterMap _ fun a b hab v hv w hw => ?_
    have hid : v.id = a := by simpa using List.find?_some hv
    have hid' : w.id = b := by simpa using List.find?_some hw
    rwa [hid, hid']
  · rw [related_of_not_mem hseed]
    exact .nil

/-- More hops only add entities at the end. -/
lemma related_prefix_of_le (h : hops ≤ more) : g.related seed hops <+: g.related seed more := by
  by_cases hseed : seed ∈ g.vertexIds
  · rw [related_of_mem hseed, related_of_mem hseed]
    exact (((rings_prefix_of_le h).flatMap sorted).filterMap _).filter _
  · rw [related_of_not_mem hseed, related_of_not_mem hseed]

end Graph

end EntityGraph
