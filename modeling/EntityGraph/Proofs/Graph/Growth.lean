import EntityGraph.Proofs.Graph.Write
import Mathlib.Data.List.Perm.Subperm
/-!
What stands in a graph after writes: the first write with a key has made it.

A write whose key is taken does nothing, so among writes with one key only the first can have
created what is there.

* `Element`: a vertex or an edge; `Write.make` is what a write creates.
* `Graph.Keeps`: a graph still has, in its place, all that another one has; writes keep this so.
* `Graph.Grows`: whatever a graph has in addition to another one was made by first writes.
  `Grows.write` is the step, `Grows.writeAll` and `Grounded.grows` are the runs.
* `Graph.Gains`: the ids and keys that a graph has after another one. Two graphs with the same keys
  have gained the same (`Gains.perm`).
* `Element.undated`: an element without its time and its number. `Grows.subperm` compares two graphs
  that have grown out of one by the same writes, which may have been made at different times and in
  different orders.
-/

namespace EntityGraph

/-- A vertex or an edge. -/
inductive Element where
  | vertex (v : Vertex)
  | edge (e : Edge)

/-- What an element is known by. -/
def Element.key : Element → Key
  | vertex v => .vertex v.id
  | edge e => .edge e.source e.target e.label

namespace Write

/-- What a write creates at some time, as the edge with some number if it is one. -/
def make (time : String) (number : Nat) : Write → Element
  | vertex id label properties =>
    .vertex ⟨id, .str label, Traversal.present (properties time)⟩
  | edge label source target properties =>
    .edge ⟨number, label, source, target, Traversal.present (properties time)⟩

@[simp] lemma key_make (w : Write) (time : String) (number : Nat) :
    (w.make time number).key = w.key := by
  cases w <;> rfl

end Write

/-- The write that comes first among those with a given key. -/
def firstWrite (ws : List Write) (k : Key) : Option Write := ws.find? fun w => w.key = k

lemma key_of_firstWrite {ws : List Write} {k : Key} {w : Write} (h : firstWrite ws k = some w) :
    w.key = k := by
  simpa using List.find?_some h

lemma mem_of_firstWrite {ws : List Write} {k : Key} {w : Write} (h : firstWrite ws k = some w) :
    w ∈ ws :=
  List.mem_of_find?_eq_some h

lemma firstWrite_eq_none_iff {ws : List Write} {k : Key} :
    firstWrite ws k = none ↔ k ∉ ws.map Write.key := by
  simp [firstWrite]

/-- More writes at the end do not change which one comes first. -/
lemma firstWrite_append_of_eq_some {ws : List Write} {k : Key} {w : Write}
    (h : firstWrite ws k = some w) (more : List Write) : firstWrite (ws ++ more) k = some w := by
  rw [firstWrite] at h
  rw [firstWrite, List.find?_append, h, Option.some_or]

namespace Graph

variable {g g' g'' : Graph} {k : Key} {w : Write} {ws more : List Write}

/-- The vertices and the edges. -/
def elements (g : Graph) : List Element := g.vertices.map .vertex ++ g.edges.map .edge

lemma has_iff_mem_keys : g.Has k ↔ k ∈ g.elements.map Element.key := by
  cases k with
  | vertex id => simp [Has, vertexIds, elements, Element.key]
  | edge source target label => simp [Has, edgeKeys, elements, Element.key]

/-- A graph still has, in its place, all that another one has. -/
structure Keeps (g g' : Graph) : Prop where
  vertices : g.vertices <+: g'.vertices
  edges : g.edges <+: g'.edges

lemma Keeps.refl (g : Graph) : g.Keeps g := ⟨List.prefix_rfl, List.prefix_rfl⟩

lemma Keeps.trans (h : g.Keeps g') (h' : g'.Keeps g'') : g.Keeps g'' :=
  ⟨h.vertices.trans h'.vertices, h.edges.trans h'.edges⟩

lemma Keeps.has (h : g.Keeps g') (hk : g.Has k) : g'.Has k := by
  cases k with
  | vertex id => exact (h.vertices.map Vertex.id).subset hk
  | edge source target label =>
      exact (h.edges.map fun e => (e.source, e.target, e.label)).subset hk

/-- A write does nothing, or it creates one element with a key that was free. -/
lemma write_cases (g : Graph) (w : Write) (time : String) :
    g.write w time = g ∨ ¬ g.Has w.key ∧ g.Keeps (g.write w time) ∧
      ∃ number, (g.write w time).elements.Perm (g.elements ++ [w.make time number]) := by
  cases w with
  | vertex id label properties =>
      rw [write_vertex, upsertVertex]
      split
      · exact .inl rfl
      · rename_i hnew
        refine .inr ⟨fun h => hnew (hasVertex_iff.mpr h), ⟨List.prefix_append _ _, List.prefix_rfl⟩,
          0, ?_⟩
        simp only [elements, List.map_append, List.append_assoc]
        exact List.perm_append_comm.append_left _
  | edge label source target properties =>
      rw [write_edge, upsertEdge]
      split
      · exact .inl rfl
      · rename_i hnew
        refine .inr ⟨fun h => hnew ?_, ⟨List.prefix_rfl, List.prefix_append _ _⟩,
          g.edges.length + 1, ?_⟩
        · rw [isSome_edge?_iff.mpr h, Bool.or_true]
        · simp only [elements, List.map_append, List.append_assoc]
          exact List.Perm.refl _

lemma keeps_write (g : Graph) (w : Write) (time : String) : g.Keeps (g.write w time) := by
  rcases write_cases g w time with h | ⟨-, h, -⟩
  · rw [h]
    exact .refl g
  · exact h

lemma keeps_writeAll (g : Graph) (ops : List (Write × String)) : g.Keeps (g.writeAll ops) := by
  induction ops generalizing g with
  | nil => exact .refl g
  | cons op ops ih => exact (keeps_write g op.1 op.2).trans (ih _)

/-- Writes add no other keys than their own. -/
lemma has_of_has_writeAll {ops : List (Write × String)} (h : (g.writeAll ops).Has k) :
    g.Has k ∨ k ∈ (ops.map Prod.fst).map Write.key := by
  induction ops generalizing g with
  | nil => exact .inl h
  | cons op ops ih =>
      rcases ih h with h | h
      · rcases (has_write_iff op.1 op.2 k).mp h with h | ⟨rfl, -⟩
        · exact .inl h
        · exact .inr List.mem_cons_self
      · exact .inr (List.mem_cons_of_mem _ h)

/-! ### Growth by first writes -/

/-- Whatever a graph has in addition to `g` was made by first writes: an element with a key that was
free in `g` is what the first write with this key has made at some time. -/
def Grows (g : Graph) (ws : List Write) (g' : Graph) : Prop :=
  ∃ new : List Element, g'.elements.Perm (g.elements ++ new) ∧ (new.map Element.key).Nodup ∧
    ∀ x ∈ new, ¬ g.Has x.key ∧
      ∃ w time number, firstWrite ws x.key = some w ∧ x = w.make time number

namespace Grows

lemma refl (g : Graph) (ws : List Write) : g.Grows ws g :=
  ⟨[], by rw [List.append_nil], List.nodup_nil, fun _ hx => absurd hx List.not_mem_nil⟩

lemma append (h : g.Grows ws g') (more : List Write) : g.Grows (ws ++ more) g' := by
  obtain ⟨new, hperm, hnodup, hnew⟩ := h
  refine ⟨new, hperm, hnodup, fun x hx => ?_⟩
  obtain ⟨hfree, w, time, number, hfirst, rfl⟩ := hnew x hx
  exact ⟨hfree, w, time, number, firstWrite_append_of_eq_some hfirst more, rfl⟩

/-- **One more write**, which is the first one with its key or finds the key taken. -/
lemma write (h : g.Grows ws g') (hw : g'.Has w.key ∨ firstWrite ws w.key = some w)
    (time : String) : g.Grows ws (g'.write w time) := by
  rcases write_cases g' w time with hsame | ⟨hfree, -, number, hperm'⟩
  · rwa [hsame]
  obtain ⟨new, hperm, hnodup, hnew⟩ := h
  have hkeys : ∀ k, k ∈ g.elements.map Element.key ∨ k ∈ new.map Element.key ↔ g'.Has k := by
    intro k
    rw [has_iff_mem_keys, (hperm.map Element.key).mem_iff, List.map_append, List.mem_append]
  refine ⟨new ++ [w.make time number], ?_, ?_, fun x hx => ?_⟩
  · rw [← List.append_assoc]
    exact hperm'.trans (hperm.append_right _)
  · rw [List.map_append, List.map_singleton, Write.key_make, ← List.concat_eq_append]
    exact hnodup.concat fun hmem => hfree ((hkeys w.key).mp (.inr hmem))
  · rcases List.mem_append.mp hx with hx | hx
    · exact hnew x hx
    · obtain rfl := List.mem_singleton.mp hx
      rw [Write.key_make]
      refine ⟨fun hk => hfree ?_, w, time, number, hw.resolve_left hfree, rfl⟩
      rw [← hkeys, ← has_iff_mem_keys]
      exact .inl hk

/-- Several such writes. -/
lemma writeAll {ops : List (Write × String)} (h : g.Grows ws g')
    (hops : ∀ op ∈ ops, g'.Has op.1.key ∨ firstWrite ws op.1.key = some op.1) :
    g.Grows ws (g'.writeAll ops) := by
  induction ops generalizing g' with
  | nil => exact h
  | cons op ops ih =>
      refine ih (h.write (hops op List.mem_cons_self) op.2) fun op' hop' => ?_
      exact (hops op' (List.mem_cons_of_mem op hop')).imp_left fun hk => hk.write op.1 op.2

/-- What is in a graph that has grown out of the empty one was made by a first write. -/
lemma make_of_mem {x : Element} (h : Graph.empty.Grows ws g) (hx : x ∈ g.elements) :
    ∃ w time number, firstWrite ws x.key = some w ∧ x = w.make time number := by
  obtain ⟨new, hperm, -, hnew⟩ := h
  have hmem : x ∈ Graph.empty.elements ++ new := hperm.subset hx
  exact (hnew x hmem).2

end Grows

/-! ### What a graph has gained -/

/-- What a graph has after another one: the ids of further vertices and the keys of further edges,
in the order of their creation, each of them once and none of them taken before. -/
structure Gains (g : Graph) (ids : List String) (keys : List (String × String × String))
    (g' : Graph) : Prop where
  vertexIds : g'.vertexIds = g.vertexIds ++ ids
  edgeKeys : g'.edgeKeys = g.edgeKeys ++ keys
  nodup_ids : ids.Nodup
  nodup_keys : keys.Nodup
  free_ids : ∀ id ∈ ids, id ∉ g.vertexIds
  free_keys : ∀ key ∈ keys, key ∉ g.edgeKeys

/-- A graph that has grown has gained something in this sense. -/
lemma Grows.exists_gains (h : g.Grows ws g') (hkeeps : g.Keeps g') :
    ∃ ids keys, g.Gains ids keys g' := by
  obtain ⟨new, hperm, hnodup, hnew⟩ := h
  obtain ⟨vs, hvs⟩ := hkeeps.vertices
  obtain ⟨es, hes⟩ := hkeeps.edges
  have hsplit : g'.elements.Perm
      (g.elements ++ (vs.map Element.vertex ++ es.map Element.edge)) := by
    simp only [elements, ← hvs, ← hes, List.map_append, List.append_assoc]
    refine .append_left _ ?_
    simp only [← List.append_assoc]
    exact .append_right _ List.perm_append_comm
  have hadded : (vs.map Element.vertex ++ es.map Element.edge).Perm new :=
    (List.perm_append_left_iff g.elements).mp (hsplit.symm.trans hperm)
  have hkeys : (vs.map (fun v => Key.vertex v.id)
      ++ es.map fun e => Key.edge e.source e.target e.label).Nodup := by
    have h := (hadded.map Element.key).nodup_iff.mpr hnodup
    rwa [List.map_append, List.map_map, List.map_map] at h
  have hfree : ∀ x ∈ vs.map Element.vertex ++ es.map Element.edge, ¬ g.Has x.key :=
    fun x hx => (hnew x (hadded.subset hx)).1
  refine ⟨vs.map Vertex.id, es.map fun e => (e.source, e.target, e.label), ?_, ?_, ?_, ?_, ?_, ?_⟩
  · rw [Graph.vertexIds, ← hvs, List.map_append]
    rfl
  · rw [Graph.edgeKeys, ← hes, List.map_append]
    rfl
  · refine .of_map Key.vertex ?_
    rw [List.map_map]
    exact hkeys.of_append_left
  · refine .of_map (fun key => Key.edge key.1 key.2.1 key.2.2) ?_
    rw [List.map_map]
    exact hkeys.of_append_right
  · rintro id hid
    obtain ⟨v, hv, rfl⟩ := List.mem_map.mp hid
    exact hfree (.vertex v) (List.mem_append_left _ (List.mem_map_of_mem hv))
  · rintro key hkey
    obtain ⟨e, he, rfl⟩ := List.mem_map.mp hkey
    exact hfree (.edge e) (List.mem_append_right _ (List.mem_map_of_mem he))

/-- Lists that add the same to another one are the same, in some order. -/
lemma perm_of_mem_append_iff {α : Type} {xs ys ys' : List α} (hys : ys.Nodup) (hys' : ys'.Nodup)
    (hfree : ∀ y ∈ ys, y ∉ xs) (hfree' : ∀ y ∈ ys', y ∉ xs)
    (h : ∀ y, y ∈ xs ++ ys ↔ y ∈ xs ++ ys') : ys.Perm ys' := by
  refine (List.perm_ext_iff_of_nodup hys hys').mpr fun y => ⟨fun hy => ?_, fun hy => ?_⟩
  · have hmem := (h y).mp (List.mem_append_right xs hy)
    exact (List.mem_append.mp hmem).resolve_left (hfree y hy)
  · have hmem := (h y).mpr (List.mem_append_right xs hy)
    exact (List.mem_append.mp hmem).resolve_left (hfree' y hy)

/-- Graphs with the same keys have gained the same over one from which both have grown. -/
lemma Gains.perm {ids ids' : List String} {keys keys' : List (String × String × String)}
    (h : g.Gains ids keys g') (h' : g.Gains ids' keys' g'') (hsame : ∀ k, g'.Has k ↔ g''.Has k) :
    ids.Perm ids' ∧ keys.Perm keys' := by
  constructor
  · refine perm_of_mem_append_iff h.nodup_ids h'.nodup_ids h.free_ids h'.free_ids fun id => ?_
    rw [← h.vertexIds, ← h'.vertexIds]
    exact hsame (.vertex id)
  · refine perm_of_mem_append_iff h.nodup_keys h'.nodup_keys h.free_keys h'.free_keys fun key => ?_
    rw [← h.edgeKeys, ← h'.edgeKeys]
    exact hsame (.edge key.1 key.2.1 key.2.2)

end Graph

/-- **Writes that come after their end points** let a graph grow by the first ones among them,
provided that the keys of all earlier writes are there. -/
theorem Grounded.grows {g g' : Graph} {ws : List Write} {known : List String}
    {ops : List (Write × String)} (h : Grounded known (ops.map Prod.fst))
    (hknown : ∀ id ∈ known, id ∈ g'.vertexIds) (hg : g.Grows ws g')
    (hws : ∀ w ∈ ws, g'.Has w.key) : g.Grows (ws ++ ops.map Prod.fst) (g'.writeAll ops) := by
  induction ops generalizing g' ws known with
  | nil => rwa [List.map_nil, List.append_nil]
  | cons op ops ih =>
      obtain ⟨w, time⟩ := op
      obtain ⟨hmade, known', hrest, hknown'⟩ := of_cons h hknown time
      have hfirst : g'.Has w.key ∨ firstWrite (ws ++ [w]) w.key = some w := by
        by_cases hmem : w.key ∈ ws.map Write.key
        · obtain ⟨w', hw', hkey⟩ := List.mem_map.mp hmem
          exact .inl (hkey ▸ hws w' hw')
        · rw [← firstWrite_eq_none_iff, firstWrite] at hmem
          exact .inr (by simp [firstWrite, List.find?_append, hmem])
      have hws' : ∀ w' ∈ ws ++ [w], (g'.write w time).Has w'.key := by
        intro w' hw'
        rcases List.mem_append.mp hw' with hw' | hw'
        · exact (hws w' hw').write w time
        · rwa [List.mem_singleton.mp hw']
      have hgrown := ih hrest hknown' ((hg.append [w]).write hfirst time) hws'
      rwa [List.append_assoc] at hgrown

/-! ### Comparing graphs that have grown at different times -/

/-- The property that holds the time at which an element was created. -/
def Element.timeName : Element → String
  | vertex v => if v.isDocument then "processedAt" else "createdAt"
  | edge e => if e.isAppearance then "createdAt" else "firstSeenAt"

/-- Properties with null in the place of one of them. -/
def Fields.blank (fields : Fields) (name : String) : Fields :=
  fields.map fun (k, x) => (k, if k = name then .null else x)

/-- An element without the time of its creation and, if it is an edge, without its number. -/
def Element.undated (x : Element) : Element :=
  match x with
  | vertex v => .vertex { v with properties := v.properties.blank x.timeName }
  | edge e => .edge { e with number := 0, properties := e.properties.blank x.timeName }

@[simp] lemma Element.key_undated (x : Element) : x.undated.key = x.key := by
  cases x <;> rfl

/-- A write creates the same at all times, apart from the time itself. -/
def Write.Timeless (w : Write) : Prop :=
  ∀ time time' number number',
    (w.make time number).undated = (w.make time' number').undated

/-- Properties that hold nothing of the time but the time itself. -/
lemma Fields.blank_present (before after : Fields) (name time time' : String) :
    (Traversal.present (before ++ (name, .str time) :: after)).blank name
      = (Traversal.present (before ++ (name, .str time') :: after)).blank name := by
  simp [Traversal.present, Fields.blank]

namespace Write

variable {label name : String} {properties : String → Fields}

lemma timeless_vertex (id : String)
    (hname : ∀ fields, (Element.vertex ⟨id, .str label, fields⟩).timeName = name)
    (hproperties : ∃ before after, ∀ time, properties time = before ++ (name, .str time) :: after) :
    (Write.vertex id label properties).Timeless := by
  intro time time' number number'
  obtain ⟨before, after, hproperties⟩ := hproperties
  simp only [make, Element.undated, hname, hproperties]
  rw [Fields.blank_present before after name time time']

lemma timeless_edge (source target : String)
    (hname : ∀ number fields,
      (Element.edge ⟨number, label, source, target, fields⟩).timeName = name)
    (hproperties : ∃ before after, ∀ time, properties time = before ++ (name, .str time) :: after) :
    (Write.edge label source target properties).Timeless := by
  intro time time' number number'
  obtain ⟨before, after, hproperties⟩ := hproperties
  simp only [make, Element.undated, hname, hproperties]
  rw [Fields.blank_present before after name time time']

end Write

namespace Graph

variable {g g' g'' : Graph} {ws : List Write}

/-- The vertices and the edges without times and numbers. -/
def undated (g : Graph) : List Element := g.elements.map Element.undated

/-- **Two graphs that have grown out of one by the same writes**: if the second one has all keys of
the first one, it has all elements of the first one, apart from times and numbers. -/
theorem Grows.subperm (h : g.Grows ws g') (h' : g.Grows ws g'') (hws : ∀ w ∈ ws, w.Timeless)
    (hkeys : ∀ k, g'.Has k → g''.Has k) : g'.undated.Subperm g''.undated := by
  obtain ⟨new, hperm, hnodup, hnew⟩ := h
  obtain ⟨new', hperm', -, hnew'⟩ := h'
  have hsubset : new.map Element.undated ⊆ new'.map Element.undated := by
    intro y hy
    obtain ⟨x, hx, rfl⟩ := List.mem_map.mp hy
    obtain ⟨hfree, w, time, number, hfirst, rfl⟩ := hnew x hx
    rw [Write.key_make] at hfree hfirst
    have hkey : g'.Has w.key := by
      rw [has_iff_mem_keys, (hperm.map Element.key).mem_iff, List.map_append, List.mem_append]
      exact .inr (List.mem_map.mpr ⟨_, hx, Write.key_make w time number⟩)
    have hkey' := hkeys w.key hkey
    rw [has_iff_mem_keys, (hperm'.map Element.key).mem_iff, List.map_append, List.mem_append,
      ← has_iff_mem_keys] at hkey'
    obtain ⟨x', hx', hsame⟩ := List.mem_map.mp (hkey'.resolve_left hfree)
    obtain ⟨-, w', time', number', hfirst', rfl⟩ := hnew' x' hx'
    rw [hsame, hfirst, Option.some.injEq] at hfirst'
    subst hfirst'
    rw [hws w (mem_of_firstWrite hfirst) time time' number number']
    exact List.mem_map_of_mem hx'
  have hnodup' : (new.map Element.undated).Nodup := by
    refine List.Nodup.of_map Element.key ?_
    simpa [Function.comp_def] using hnodup
  have hsub : ((g.elements ++ new).map Element.undated).Subperm
      ((g.elements ++ new').map Element.undated) := by
    rw [List.map_append, List.map_append, List.subperm_append_left]
    exact hnodup'.subperm hsubset
  exact (hperm.map _).subperm.trans (hsub.trans (hperm'.map _).symm.subperm)

end Graph

end EntityGraph
