import EntityGraph.Graph.Execute
import EntityGraph.Proofs.Graph.Reading
import EntityGraph.Proofs.Graph.Sorting
/-!
Entities joined to every one of some vertices.

* `Graph.Stored`: every entity is stored with a text. `Vertex.title` is then what connections are
  ordered by: the text, or the id if the text is empty.
* `Graph.connected`: the entities joined to every one of some vertices, by their titles.
  `Graph.execute_commonConnections` says that the graph answers with the first of them.
* `Graph.mem_connected_iff`, `Graph.pairwise_connected`: which they are, and in what order.
* `Graph.connected_congr`: they depend on the set of the vertices only.
-/

namespace EntityGraph

/-- Things whose keys are texts are sorted by these texts. -/
lemma Value.sortedBy?_of_str {α : Type} {key : α → Value} {title : α → String} {xs : List α}
    (h : ∀ x ∈ xs, key x = .str (title x)) :
    sortedBy? key xs = some (xs.mergeSort fun a b => !decide (title b < title a)) := by
  have hkeys : xs.map key = (xs.map title).map .str := by
    rw [List.map_map]
    exact List.map_congr_left h
  have hsame := List.map_mergeSort (f := id) (l := xs)
    (r := fun a b => !(less? (key b) (key a)).getD false)
    (s := fun a b => !decide (title b < title a)) fun a ha b hb => by
      simp only [h a ha, h b hb, less?_str, Option.getD_some, id]
  rw [List.map_id, List.map_id] at hsame
  rw [sortedBy?, hkeys, haveOrder_map_str, if_pos rfl, hsame]

/-- What connections are ordered by: the text, or the id if that is empty. -/
def Vertex.title (v : Vertex) : String :=
  let text := ((v.property "text").text?).getD ""
  if text = "" then v.id else text

namespace Graph

variable {g : Graph} {v w : Vertex} {a b : String} {seeds seeds' : List String} {limit : Int}

/-- Every entity is stored with a text. -/
def Stored (g : Graph) : Prop := ∀ v ∈ g.labelled entityLabel, ∃ t, v.property "text" = .str t

lemma orderKey_eq {t : String} (h : v.property "text" = .str t) : orderKey v = .str v.title := by
  simp only [orderKey, Vertex.title, h, Value.isEmptyLike, Value.text?, Option.getD_some,
    String.isEmpty_iff]
  split_ifs <;> rfl

lemma title_eq {t : String} (h : v.property "text" = .str t) (ht : t ≠ "") : v.title = t := by
  simp only [Vertex.title, h, Value.text?, Option.getD_some, if_neg ht]

/-- Whether a vertex is an entity that is joined to every one of some others. -/
def joins (g : Graph) (seeds : List String) (v : Vertex) : Bool :=
  v.isEntity && !seeds.contains v.id && seeds.all fun s => (g.neighbours s).contains v.id

lemma joins_iff : g.joins seeds v = true ↔
    v.isEntity = true ∧ v.id ∉ seeds ∧ ∀ s ∈ seeds, v.id ∈ g.neighbours s := by
  simp [joins, and_assoc]

/-- The entities joined to every one of some vertices, by their titles; none if there are no such
vertices, or if one of them is not there. -/
def connected (g : Graph) (seeds : List String) : List Vertex :=
  if seeds ≠ [] ∧ ∀ s ∈ seeds, s ∈ g.vertexIds then
    (g.vertices.filter (g.joins seeds)).mergeSort fun v w => !decide (w.title < v.title)
  else []

/-- The connections of a graph whose entities are stored with texts are found and put in order. -/
theorem connections_eq (h : g.Stored) (seeds : List String) :
    g.connections seeds = .ok (g.connected seeds) := by
  have hunknown : (seeds.isEmpty || !seeds.all g.hasVertex) = true ↔
      ¬(seeds ≠ [] ∧ ∀ s ∈ seeds, s ∈ g.vertexIds) := by
    simp [← hasVertex_iff, imp_iff_not_or]
  have hkeys : ∀ v ∈ g.vertices.filter (g.joins seeds), orderKey v = .str v.title := by
    intro v hv
    obtain ⟨hvertex, hjoins⟩ := List.mem_filter.mp hv
    obtain ⟨t, ht⟩ := h v (List.mem_filter.mpr ⟨hvertex, (joins_iff.mp hjoins).1⟩)
    exact orderKey_eq ht
  rw [connections, connected]
  by_cases hseeds : seeds ≠ [] ∧ ∀ s ∈ seeds, s ∈ g.vertexIds
  · have hsorted : Value.sortedBy? orderKey (g.vertices.filter fun v => v.isEntity &&
        !seeds.contains v.id && seeds.all fun s => (g.neighbours s).contains v.id) = some _ :=
      Value.sortedBy?_of_str hkeys
    rw [if_neg (mt hunknown.mp (not_not_intro hseeds)), if_pos hseeds]
    simp only [hsorted]
    rfl
  · rw [if_pos (hunknown.mpr hseeds), if_neg hseeds]

/-- The connected entities depend on the set of the vertices only. -/
lemma connected_congr (h : ∀ s, s ∈ seeds ↔ s ∈ seeds') :
    g.connected seeds = g.connected seeds' := by
  have hnil : seeds = [] ↔ seeds' = [] := by
    simp only [List.eq_nil_iff_forall_not_mem, h]
  have hjoins : g.joins seeds = g.joins seeds' := by
    funext v
    simp only [Bool.eq_iff_iff (b := g.joins _ _), joins_iff, h]
  simp only [connected, ne_eq, hnil, h, hjoins]

/-- **The first of the connected entities** are what the graph answers with. -/
theorem execute_commonConnections (h : g.Stored) (seeds : List String) (hlimit : 0 ≤ limit) :
    g.execute (.commonConnections seeds limit)
      = .ok (g, vertexRows ((g.connected seeds).take limit.toNat)) := by
  have hdistinct : g.connected seeds.eraseDups = g.connected seeds :=
    connected_congr fun _ => List.mem_eraseDups
  show ((fitting (g.commonConnections seeds.eraseDups limit)).map vertexRows).map _ = _
  rw [commonConnections, connections_eq h, hdistinct]
  show Except.ok (g, vertexRows (limited limit (g.connected seeds))) = _
  rw [limited, if_pos hlimit]

/-- **Which entities are connected.** -/
theorem mem_connected_iff : v ∈ g.connected seeds ↔ seeds ≠ [] ∧ (∀ s ∈ seeds, s ∈ g.vertexIds) ∧
    v ∈ g.labelled entityLabel ∧ v.id ∉ seeds ∧ ∀ s ∈ seeds, v.id ∈ g.neighbours s := by
  rw [connected]
  split_ifs with hseeds
  · rw [List.mem_mergeSort, List.mem_filter, joins_iff, labelled, List.mem_filter, Vertex.isEntity]
    tauto
  · simp only [List.not_mem_nil, false_iff, ← and_assoc]
    tauto

/-- **The order of the connected entities** is strict if no two entities have the same title. -/
theorem pairwise_connected (h : ((g.labelled entityLabel).map Vertex.title).Nodup)
    (seeds : List String) : (g.connected seeds).Pairwise fun v w => v.title < w.title := by
  rw [← List.pairwise_map (f := Vertex.title) (R := (· < ·)), connected]
  split_ifs with hseeds
  · rw [List.map_mergeSort (s := fun a b => !decide (b < a)) fun _ _ _ _ => rfl]
    refine pairwise_mergeSort_of_nodup String.lt_trans String.lt_irrefl lt_or_lt_of_ne ?_
    refine h.sublist (List.Sublist.map _ ?_)
    refine List.monotone_filter_right _ fun v hv => ?_
    exact (joins_iff.mp hv).1
  · exact .nil

end Graph

end EntityGraph
