import EntityGraph.Clock
import EntityGraph.Graph.Execute
import EntityGraph.Traversal.Upsert
import Mathlib.Data.List.Nodup
import Mathlib.Tactic.Common
/-!
What writes do to the graph, told by the keys of what they create.

* `Key`: what a vertex or an edge is known by; `Graph.Has` says that there is one.
* `Write`: a write that waits for the time at which it is made. `Graph.has_write_iff` says what a
  write adds, and `Graph.write_eq_self` that it adds nothing to a graph that has its key.
* `Graph.writeAll`: writes with their times, one after the other.
* `Graph.Simple`: no key is there twice; writes keep this so.
* `Grounded`: every edge is written after its end points. `Grounded.has_writeAll_iff` is the closed
  form of such writes: the graph has what it had and the keys that were written.
-/

namespace EntityGraph

/-- What a vertex or an edge is known by. -/
inductive Key where
  | vertex (id : String)
  | edge (source target label : String)
  deriving DecidableEq

/-- A write that waits for its time, which stands in the properties. -/
inductive Write where
  | vertex (id label : String) (properties : String → Fields)
  | edge (label source target : String) (properties : String → Fields)

namespace Write

/-- The key of what a write creates. It does not depend on the time. -/
def key : Write → Key
  | vertex id _ _ => .vertex id
  | edge label source target _ => .edge source target label

/-- The traversal of a write at some time. -/
def traversal (time : String) : Write → Traversal
  | vertex id label properties => Traversal.upsertVertex id label (properties time)
  | edge label source target properties =>
    Traversal.upsertEdge label source target (properties time)

end Write

namespace Graph

variable {g : Graph}

/-- The ids of the vertices, in the order of their creation. -/
def vertexIds (g : Graph) : List String := g.vertices.map Vertex.id

/-- Source, target and label of the edges, in the order of their creation. -/
def edgeKeys (g : Graph) : List (String × String × String) :=
  g.edges.map fun e => (e.source, e.target, e.label)

/-- There is a vertex or an edge with a given key. -/
def Has (g : Graph) : Key → Prop
  | .vertex id => id ∈ g.vertexIds
  | .edge source target label => (source, target, label) ∈ g.edgeKeys

/-- The end points of an edge are there; a vertex needs none. -/
def Supports (g : Graph) : Key → Prop
  | .vertex _ => True
  | .edge source target _ => source ∈ g.vertexIds ∧ target ∈ g.vertexIds

/-- No two vertices have one id, and no two edges have the same ends and the same label. -/
structure Simple (g : Graph) : Prop where
  vertices : g.vertexIds.Nodup
  edges : g.edgeKeys.Nodup

/-- The graph after a write. -/
def write (g : Graph) (w : Write) (time : String) : Graph := g.apply (w.traversal time).operation

lemma hasVertex_iff {id : String} : g.hasVertex id = true ↔ id ∈ g.vertexIds := by
  simp [hasVertex, vertex?, vertexIds]

lemma isSome_edge?_iff {source target label : String} :
    (g.edge? label source target).isSome = true ↔ (source, target, label) ∈ g.edgeKeys := by
  simp only [edge?, List.find?_isSome, Edge.joins, Bool.and_eq_true, beq_iff_eq, edgeKeys,
    List.mem_map, Prod.mk.injEq]
  exact exists_congr fun e => and_congr_right fun _ => by tauto

/-- Creating a vertex adds its id and nothing else. -/
lemma vertexIds_upsertVertex (id : String) (label : Value) (properties : Fields) :
    (g.upsertVertex id label properties).vertexIds
      = if id ∈ g.vertexIds then g.vertexIds else g.vertexIds ++ [id] := by
  rw [upsertVertex]
  by_cases h : id ∈ g.vertexIds
  · rw [if_pos h, if_pos (hasVertex_iff.mpr h)]
  · rw [if_neg h, if_neg (by rwa [hasVertex_iff])]
    simp [vertexIds]

/-- Creating an edge adds its key, provided that its end points are there. -/
lemma edgeKeys_upsertEdge (label source target : String) (properties : Fields) :
    (g.upsertEdge label source target properties).edgeKeys
      = if (source ∈ g.vertexIds ∧ target ∈ g.vertexIds) ∧ (source, target, label) ∉ g.edgeKeys
        then g.edgeKeys ++ [(source, target, label)] else g.edgeKeys := by
  rw [upsertEdge]
  by_cases h : (source ∈ g.vertexIds ∧ target ∈ g.vertexIds) ∧ (source, target, label) ∉ g.edgeKeys
  · rw [if_pos h, if_neg]
    · simp [edgeKeys]
    · obtain ⟨⟨hs, ht⟩, hk⟩ := h
      rw [← isSome_edge?_iff] at hk
      simp [hasVertex_iff.mpr hs, hasVertex_iff.mpr ht, hk]
  · rw [if_neg h, if_pos]
    rw [← isSome_edge?_iff, ← hasVertex_iff, ← hasVertex_iff] at h
    grind

lemma write_vertex (id label : String) (properties : String → Fields) (time : String) :
    g.write (.vertex id label properties) time
      = g.upsertVertex id (.str label) (Traversal.present (properties time)) := rfl

lemma write_edge (label source target : String) (properties : String → Fields) (time : String) :
    g.write (.edge label source target properties) time
      = g.upsertEdge label source target (Traversal.present (properties time)) := rfl

/-- **A write adds its key**, unless it is that of an edge without end points, and nothing else. -/
theorem has_write_iff (w : Write) (time : String) (k : Key) :
    (g.write w time).Has k ↔ g.Has k ∨ k = w.key ∧ g.Supports k := by
  cases w with
  | vertex id label properties =>
      rw [write_vertex]
      cases k with
      | vertex id' =>
          simp only [Has, vertexIds_upsertVertex, Write.key, Key.vertex.injEq, Supports, and_true]
          split
          · exact ⟨.inl, fun h => h.elim (fun h' => h') fun h' => by rwa [h']⟩
          · simp
      | edge source target label' => simp [Has, edgeKeys, Write.key]
  | edge label source target properties =>
      rw [write_edge]
      cases k with
      | vertex id' => simp [Has, vertexIds, Write.key]
      | edge source' target' label' =>
          simp only [Has, edgeKeys_upsertEdge, Write.key, Key.edge.injEq, Supports]
          split
          · rename_i h
            simp only [List.mem_append, List.mem_singleton, Prod.mk.injEq]
            refine or_congr_right ⟨fun heq => ⟨heq, ?_⟩, fun heq => heq.1⟩
            rw [heq.1, heq.2.1]
            exact h.1
          · rename_i h
            refine ⟨.inl, fun h' => h'.elim (fun hk => hk) fun hk => ?_⟩
            obtain ⟨⟨rfl, rfl, rfl⟩, hends⟩ := hk
            by_contra hnot
            exact h ⟨hends, hnot⟩

/-- A write changes nothing in a graph that has its key. -/
theorem write_eq_self {w : Write} (time : String) (h : g.Has w.key) : g.write w time = g := by
  cases w with
  | vertex id label properties => rw [write_vertex, upsertVertex, if_pos (hasVertex_iff.mpr h)]
  | edge label source target properties =>
      rw [write_edge, upsertEdge, if_pos]
      rw [isSome_edge?_iff.mpr h, Bool.or_true]

/-- Nothing that is there is lost. -/
lemma Has.write {k : Key} (h : g.Has k) (w : Write) (time : String) : (g.write w time).Has k :=
  (has_write_iff w time k).mpr (.inl h)

lemma Supports.write {k : Key} (h : g.Supports k) (w : Write) (time : String) :
    (g.write w time).Supports k := by
  cases k with
  | vertex id => trivial
  | edge source target label =>
      have hsource : g.Has (.vertex source) := h.1
      have htarget : g.Has (.vertex target) := h.2
      exact ⟨hsource.write w time, htarget.write w time⟩

/-- What a write creates has a key of its own. -/
lemma Simple.write (h : g.Simple) (w : Write) (time : String) : (g.write w time).Simple := by
  cases w with
  | vertex id label properties =>
      rw [write_vertex]
      refine ⟨?_, by rw [edgeKeys, edges_upsertVertex]; exact h.edges⟩
      rw [vertexIds_upsertVertex]
      split
      · exact h.vertices
      · rename_i hnew
        rw [← List.concat_eq_append]
        exact h.vertices.concat hnew
  | edge label source target properties =>
      rw [write_edge]
      refine ⟨by rw [vertexIds, vertices_upsertEdge]; exact h.vertices, ?_⟩
      rw [edgeKeys_upsertEdge]
      split
      · rename_i hnew
        rw [← List.concat_eq_append]
        exact h.edges.concat hnew.2
      · exact h.edges

/-! ### Several writes -/

/-- The graph after writes with their times. -/
def writeAll (g : Graph) (ops : List (Write × String)) : Graph :=
  ops.foldl (fun g op => g.write op.1 op.2) g

@[simp] lemma writeAll_nil : g.writeAll [] = g := rfl

@[simp] lemma writeAll_cons (op : Write × String) (ops : List (Write × String)) :
    g.writeAll (op :: ops) = (g.write op.1 op.2).writeAll ops := rfl

lemma writeAll_append (ops more : List (Write × String)) :
    g.writeAll (ops ++ more) = (g.writeAll ops).writeAll more := List.foldl_append

lemma Has.writeAll {k : Key} (h : g.Has k) (ops : List (Write × String)) :
    (g.writeAll ops).Has k := by
  induction ops generalizing g with
  | nil => exact h
  | cons op ops ih => exact ih (h.write op.1 op.2)

lemma Simple.writeAll (h : g.Simple) (ops : List (Write × String)) : (g.writeAll ops).Simple := by
  induction ops generalizing g with
  | nil => exact h
  | cons op ops ih => exact ih (h.write op.1 op.2)

/-- Writes change nothing in a graph that has their keys. -/
lemma writeAll_eq_self {ops : List (Write × String)} (h : ∀ op ∈ ops, g.Has op.1.key) :
    g.writeAll ops = g := by
  induction ops with
  | nil => rfl
  | cons op ops ih =>
      rw [writeAll_cons, write_eq_self op.2 (h op List.mem_cons_self)]
      exact ih fun op' hop' => h op' (List.mem_cons_of_mem op hop')

end Graph

/-! ### Edges after their end points -/

/-- Every edge is written after its end points, when the vertices `known` are there at the start. -/
def Grounded (known : List String) : List Write → Prop
  | [] => True
  | .vertex id _ _ :: ws => Grounded (id :: known) ws
  | .edge _ source target _ :: ws => (source ∈ known ∧ target ∈ known) ∧ Grounded known ws

namespace Grounded

/-- More vertices at the start do no harm. -/
lemma mono {known known' : List String} {ws : List Write} (h : Grounded known ws)
    (hk : known ⊆ known') : Grounded known' ws := by
  induction ws generalizing known known' with
  | nil => trivial
  | cons w ws ih =>
      cases w with
      | vertex id label properties => exact ih h (List.cons_subset_cons id hk)
      | edge label source target properties =>
          exact ⟨⟨hk h.1.1, hk h.1.2⟩, ih h.2 hk⟩

/-- Writes may rely on the vertices that the writes before them have created. -/
lemma append {known known' : List String} {ws more : List Write} (h : Grounded known ws)
    (h' : Grounded known' more)
    (hk : ∀ id ∈ known', id ∈ known ∨ .vertex id ∈ ws.map Write.key) :
    Grounded known (ws ++ more) := by
  induction ws generalizing known with
  | nil => exact h'.mono fun id hid => (hk id hid).resolve_right (by simp)
  | cons w ws ih =>
      cases w with
      | vertex id label properties =>
          refine ih h fun id' hid' => ?_
          rcases hk id' hid' with hin | hin
          · exact .inl (List.mem_cons_of_mem id hin)
          · rcases List.mem_cons.mp hin with heq | hin
            · exact .inl (List.mem_cons.mpr (.inl (Key.vertex.inj heq)))
            · exact .inr hin
      | edge label source target properties =>
          refine ⟨h.1, ih h.2 fun id' hid' => (hk id' hid').imp_right fun hin => ?_⟩
          exact (List.mem_cons.mp hin).resolve_left (by simp [Write.key])

/-- Edges between known vertices. -/
lemma of_edges {known : List String} {ws : List Write}
    (h : ∀ w ∈ ws, ∃ label source target properties,
      w = .edge label source target properties ∧ source ∈ known ∧ target ∈ known) :
    Grounded known ws := by
  induction ws with
  | nil => trivial
  | cons w ws ih =>
      obtain ⟨label, source, target, properties, rfl, hends⟩ := h w List.mem_cons_self
      exact ⟨hends, ih fun w' hw' => h w' (List.mem_cons_of_mem _ hw')⟩

/-- The first of the writes is made, since its end points are there, and the other ones can rely on
it. -/
lemma of_cons {g : Graph} {known : List String} {w : Write} {ws : List Write}
    (h : Grounded known (w :: ws)) (hknown : ∀ id ∈ known, id ∈ g.vertexIds) (time : String) :
    (g.write w time).Has w.key ∧
      ∃ known', Grounded known' ws ∧ ∀ id ∈ known', id ∈ (g.write w time).vertexIds := by
  have hkept : ∀ id ∈ known, id ∈ (g.write w time).vertexIds := fun id hid =>
    Graph.Has.write (k := .vertex id) (hknown id hid) w time
  cases w with
  | vertex id label properties =>
      have hmade : (g.write (.vertex id label properties) time).Has (.vertex id) :=
        (Graph.has_write_iff _ time _).mpr (.inr ⟨rfl, trivial⟩)
      refine ⟨hmade, id :: known, h, fun id' hid' => ?_⟩
      rcases List.mem_cons.mp hid' with rfl | hin
      · exact hmade
      · exact hkept id' hin
  | edge label source target properties =>
      have hends : g.Supports (.edge source target label) := ⟨hknown _ h.1.1, hknown _ h.1.2⟩
      exact ⟨(Graph.has_write_iff _ time _).mpr (.inr ⟨rfl, hends⟩), known, h.2, hkept⟩

/-- **Closed form of writes**: if every edge comes after its end points, the graph has what it had
and all keys that were written. -/
theorem has_writeAll_iff {g : Graph} {known : List String} {ops : List (Write × String)}
    (h : Grounded known (ops.map Prod.fst)) (hknown : ∀ id ∈ known, id ∈ g.vertexIds) (k : Key) :
    (g.writeAll ops).Has k ↔ g.Has k ∨ k ∈ ops.map fun op => op.1.key := by
  induction ops generalizing g known with
  | nil => simp
  | cons op ops ih =>
      obtain ⟨w, time⟩ := op
      obtain ⟨hmade, known', hrest, hknown'⟩ := of_cons h hknown time
      have hstep : (g.write w time).Has k ↔ g.Has k ∨ k = w.key := by
        constructor
        · exact fun hk => ((Graph.has_write_iff w time k).mp hk).imp_right fun hk => hk.1
        · rintro (hk | rfl)
          · exact hk.write w time
          · exact hmade
      rw [Graph.writeAll_cons, ih hrest hknown', hstep, List.map_cons, List.mem_cons, or_assoc]

end Grounded

end EntityGraph
