import EntityGraph.Proofs.Graph.Growth
import EntityGraph.Proofs.Traversal.Decoding
/-!
What carrying out an operation can do to a graph.

* `Operation.Puts`: an operation is a write with a given key, told by its step and its arguments.
* `Graph.Adds`: nothing is done, or one vertex or one edge is created under a key that was free.
* `Graph.rowsAt`: the rows of what has a given key.
* `Graph.execute_carries`: every operation that is carried out adds in this way, and a write returns
  what has its key afterwards.
* `Graph.WellFormed`: edges end at vertices, no key is there twice, and edges are numbered in order.
  `Adds.wellFormed` says that operations keep this so.
* `Keeps.rowsAt_eq`: what a key is answered with stays the same in all later graphs.
-/

namespace EntityGraph

namespace Operation

/-- An operation is a write with a given key. -/
def Puts (op : Operation) : Key → Prop
  | .vertex id => op.step = .str "upsert_vertex" ∧ plainArgument op.arguments "vertex_id" = .str id
  | .edge source target label => op.step = .str "upsert_edge" ∧
      plainArgument op.arguments "out_id" = .str source ∧
      plainArgument op.arguments "in_id" = .str target ∧
      plainArgument op.arguments "label" = .str label

variable {op : Operation} {k : Key}

/-- The writes of this library put what has their key. -/
lemma puts_traversal (w : Write) (time : String) : (w.traversal time).operation.Puts w.key := by
  cases w with
  | vertex id label properties => exact ⟨rfl, rfl⟩
  | edge label source target properties => exact ⟨rfl, rfl, rfl, rfl⟩

/-- Only two steps are writes. -/
lemma Puts.step (h : op.Puts k) :
    op.step = .str "upsert_vertex" ∨ op.step = .str "upsert_edge" := by
  cases k with
  | vertex id => exact .inl h.1
  | edge source target label => exact .inr h.1

/-- A step that creates vertices puts nothing but the vertex that it names. -/
lemma Puts.eq_vertex {id : Value} (hstep : op.step = .str "upsert_vertex")
    (hid : plainArgument op.arguments "vertex_id" = id) (h : op.Puts k) :
    ∃ s, id = .str s ∧ k = .vertex s := by
  cases k with
  | vertex s => exact ⟨s, hid ▸ h.2, rfl⟩
  | edge source target label => exact absurd (hstep ▸ h.1) (by simp)

/-- A step that creates edges puts nothing but the edge that it names. -/
lemma Puts.eq_edge {source target label : Value} (hstep : op.step = .str "upsert_edge")
    (hsource : plainArgument op.arguments "out_id" = source)
    (htarget : plainArgument op.arguments "in_id" = target)
    (hlabel : plainArgument op.arguments "label" = label) (h : op.Puts k) :
    ∃ s t l, source = .str s ∧ target = .str t ∧ label = .str l ∧ k = .edge s t l := by
  cases k with
  | vertex id => exact absurd (hstep ▸ h.1) (by simp)
  | edge s t l => exact ⟨s, t, l, hsource ▸ h.2.1, htarget ▸ h.2.2.1, hlabel ▸ h.2.2.2, rfl⟩

end Operation

namespace Graph

variable {g g' : Graph} {op : Operation} {k : Key} {rows : List Row}

/-- The rows of what has a given key. -/
def rowsAt (g : Graph) : Key → List Row
  | .vertex id => vertexRows (g.vertex? id).toList
  | .edge source target label => (g.edge? label source target).toList.map Edge.row

/-- What has a key is answered with one row. -/
lemma exists_rowsAt_eq (h : g.Has k) : ∃ row, g.rowsAt k = [row] := by
  cases k with
  | vertex id =>
      obtain ⟨v, hv⟩ := Option.isSome_iff_exists.mp (hasVertex_iff.mpr h)
      exact ⟨v.row, by rw [rowsAt, hv]; rfl⟩
  | edge source target label =>
      obtain ⟨e, he⟩ := Option.isSome_iff_exists.mp (isSome_edge?_iff.mpr h)
      exact ⟨e.row, by rw [rowsAt, he]; rfl⟩

/-- **What a key is answered with** stays the same in all later graphs. -/
theorem Keeps.rowsAt_eq (h : g.Keeps g') (hk : g.Has k) : g'.rowsAt k = g.rowsAt k := by
  cases k with
  | vertex id =>
      obtain ⟨v, hv⟩ := Option.isSome_iff_exists.mp (hasVertex_iff.mpr hk)
      have hv' : g'.vertex? id = some v := h.vertices.find?_eq_some hv
      rw [rowsAt, rowsAt, hv, hv']
  | edge source target label =>
      obtain ⟨e, he⟩ := Option.isSome_iff_exists.mp (isSome_edge?_iff.mpr hk)
      have he' : g'.edge? label source target = some e := h.edges.find?_eq_some he
      rw [rowsAt, rowsAt, he, he']

/-- What an operation can do to a graph: nothing, or it creates one vertex, or one edge between
vertices of the graph, under the key that it names and that was free. -/
inductive Adds (g : Graph) (op : Operation) : Graph → Prop where
  | nothing : Adds g op g
  | vertex {id : String} (label : Value) (properties : Fields) (hop : op.Puts (.vertex id))
      (hfree : id ∉ g.vertexIds) :
      Adds g op { g with vertices := g.vertices ++ [⟨id, label, properties⟩] }
  | edge {label source target : String} (properties : Fields)
      (hop : op.Puts (.edge source target label)) (hends : g.Supports (.edge source target label))
      (hfree : (source, target, label) ∉ g.edgeKeys) :
      Adds g op { g with
        edges := g.edges ++ [⟨g.edges.length + 1, label, source, target, properties⟩] }

namespace Adds

lemma upsertVertex {id : String} (hop : op.Puts (.vertex id)) (label : Value)
    (properties : Fields) : g.Adds op (g.upsertVertex id label properties) := by
  rw [Graph.upsertVertex]
  split
  · exact .nothing
  · rename_i hfree
    rw [hasVertex_iff] at hfree
    exact .vertex label properties hop hfree

lemma upsertEdge {label source target : String} (hop : op.Puts (.edge source target label))
    (properties : Fields) : g.Adds op (g.upsertEdge label source target properties) := by
  rw [Graph.upsertEdge]
  split
  · exact .nothing
  · rename_i hnew
    simp only [Bool.or_eq_true, Bool.not_eq_true', Bool.and_eq_false_iff, not_or,
      Bool.not_eq_false, isSome_edge?_iff, hasVertex_iff] at hnew
    exact .edge properties hop hnew.1 hnew.2

/-- Nothing is lost, changed or moved. -/
lemma keeps (h : g.Adds op g') : g.Keeps g' := by
  cases h with
  | nothing => exact .refl g
  | vertex => exact ⟨List.prefix_append _ _, List.prefix_rfl⟩
  | edge => exact ⟨List.prefix_rfl, List.prefix_append _ _⟩

/-- At most one vertex or edge is new. -/
lemma length_elements_le (h : g.Adds op g') : g'.elements.length ≤ g.elements.length + 1 := by
  cases h with
  | nothing => omega
  | vertex => simp only [elements, List.length_append, List.length_map, List.length_singleton]; omega
  | edge => simp only [elements, List.length_append, List.length_map, List.length_singleton]; omega

/-- A key that is new is one that the operation names. -/
lemma puts_of_has (h : g.Adds op g') (hk : g'.Has k) (hfree : ¬ g.Has k) : op.Puts k := by
  cases h with
  | nothing => exact absurd hk hfree
  | @vertex id label properties hop _ =>
      cases k with
      | vertex id' =>
          rw [Has, vertexIds, List.map_append, List.mem_append] at hk
          rw [List.mem_singleton.mp (hk.resolve_left hfree)]
          exact hop
      | edge source target label => exact absurd hk hfree
  | @edge label source target properties hop _ _ =>
      cases k with
      | vertex id => exact absurd hk hfree
      | edge source' target' label' =>
          rw [Has, edgeKeys, List.map_append, List.mem_append] at hk
          obtain ⟨rfl, rfl, rfl⟩ : source' = source ∧ target' = target ∧ label' = label := by
            simpa using hk.resolve_left hfree
          exact hop

/-- Operations that are no writes change nothing. -/
lemma puts_of_ne (h : g.Adds op g') (hne : g' ≠ g) : ∃ k, op.Puts k := by
  cases h with
  | nothing => exact absurd rfl hne
  | vertex _ _ hop _ => exact ⟨_, hop⟩
  | edge _ hop _ _ => exact ⟨_, hop⟩

end Adds

/-! ### Operations that are carried out -/

/-- What ends in an error does not succeed. -/
lemma bind_error_ne_ok {α β ε : Type} (x : Except ε α) (e : ε) {b : β} :
    (x >>= fun _ => .error e) ≠ .ok b := by
  cases x <;> simp [bind, Except.bind]

/-- An operation leads to a graph that it may lead to, and a write returns what has its key there. A
graph could hold an edge whose end points are missing, and such an edge is not returned. -/
structure Carries (g : Graph) (op : Operation) (g' : Graph) (rows : List Row) : Prop where
  adds : g.Adds op g'
  answers : ∀ k, op.Puts k → g'.Supports k → rows = g'.rowsAt k

namespace Carries

/-- An operation that is no write and changes nothing. -/
lemma of_not_puts (h : ∀ k, ¬ op.Puts k) (rows : List Row) : g.Carries op g rows :=
  ⟨.nothing, fun k hk => absurd hk (h k)⟩

lemma putVertex {id label properties : Value} (hstep : op.step = .str "upsert_vertex")
    (hid : Operation.plainArgument op.arguments "vertex_id" = id)
    (h : g.putVertex id label properties = .ok (g', rows)) : g.Carries op g' rows := by
  have hanswers : ∀ s, id = .str s → rows = vertexRows (g'.vertex? s).toList →
      ∀ k, op.Puts k → g'.Supports k → rows = g'.rowsAt k := by
    rintro s rfl hrows k hk -
    obtain ⟨s', hs, rfl⟩ := hk.eq_vertex hstep hid
    rwa [← Value.str.inj hs]
  cases id with
  | str s =>
      rw [Graph.putVertex] at h
      cases htaken : g.hasVertex s with
      | true =>
          rw [if_pos htaken] at h
          obtain ⟨rfl, rfl⟩ := Prod.mk.inj (Except.ok.inj h)
          exact ⟨.nothing, hanswers s rfl rfl⟩
      | false =>
          rw [if_neg (by simp [htaken])] at h
          cases hfields : propertiesOf properties with
          | error e =>
              rw [hfields] at h
              exact absurd h (by simp [bind, Except.bind])
          | ok fields =>
              rw [hfields] at h
              obtain ⟨rfl, rfl⟩ := Prod.mk.inj (Except.ok.inj h)
              exact ⟨.upsertVertex ⟨hstep, hid⟩ label fields, hanswers s rfl rfl⟩
  | null | bool | int | float | list | object => exact absurd h (bind_error_ne_ok _ _)

lemma putEdge {label source target properties : Value} (hstep : op.step = .str "upsert_edge")
    (hsource : Operation.plainArgument op.arguments "out_id" = source)
    (htarget : Operation.plainArgument op.arguments "in_id" = target)
    (hlabel : Operation.plainArgument op.arguments "label" = label)
    (h : g.putEdge label source target properties = .ok (g', rows)) : g.Carries op g' rows := by
  have hfits : ∀ k, op.Puts k → ∃ s t l, source = .str s ∧ target = .str t ∧ label = .str l ∧
      k = .edge s t l := fun k hk => hk.eq_edge hstep hsource htarget hlabel
  have hanswers : ∀ s t l, source = .str s → target = .str t → label = .str l →
      rows = (g'.edge? l s t).toList.map Edge.row →
      ∀ k, op.Puts k → g'.Supports k → rows = g'.rowsAt k := by
    rintro s t l rfl rfl rfl hrows k hk -
    obtain ⟨s', t', l', hs, ht, hl, rfl⟩ := hfits k hk
    rwa [← Value.str.inj hs, ← Value.str.inj ht, ← Value.str.inj hl]
  unfold Graph.putEdge at h
  split at h
  case h_1 s t =>
      split at h
      case isTrue hends =>
          split at h
          case h_1 l =>
              cases htaken : (g.edge? l s t).isSome with
              | true =>
                  rw [if_pos htaken] at h
                  obtain ⟨rfl, rfl⟩ := Prod.mk.inj (Except.ok.inj h)
                  exact ⟨.nothing, hanswers s t l rfl rfl rfl rfl⟩
              | false =>
                  rw [if_neg (by simp [htaken])] at h
                  cases hfields : propertiesOf properties with
                  | error e =>
                      rw [hfields] at h
                      exact absurd h (by simp [bind, Except.bind])
                  | ok fields =>
                      rw [hfields] at h
                      obtain ⟨rfl, rfl⟩ := Prod.mk.inj (Except.ok.inj h)
                      exact ⟨.upsertEdge ⟨hstep, hsource, htarget, hlabel⟩ fields,
                        hanswers s t l rfl rfl rfl rfl⟩
          case h_2 => exact absurd h (by simp)
      case isFalse hends =>
          obtain ⟨rfl, rfl⟩ := Prod.mk.inj (Except.ok.inj h)
          refine ⟨.nothing, fun k hk hsupports => absurd ?_ hends⟩
          obtain ⟨s', t', l, hs, ht, -, rfl⟩ := hfits k hk
          rw [Value.str.inj hs, Value.str.inj ht, Bool.and_eq_true, hasVertex_iff, hasVertex_iff]
          exact hsupports
  case h_2 hnot =>
      obtain ⟨rfl, rfl⟩ := Prod.mk.inj (Except.ok.inj h)
      refine of_not_puts (fun k hk => ?_) []
      obtain ⟨s, t, l, hs, ht, -⟩ := hfits k hk
      exact hnot s t hs ht

end Carries

/-- A read that returns rows leaves the graph as it is. -/
lemma eq_of_map_ok {α : Type} {read : Except GraphError α} {f : α → List Row}
    (h : (read.map fun a => (g, f a)) = .ok (g', rows)) : g' = g := by
  cases read with
  | error e => exact absurd h (by simp [Except.map])
  | ok a => exact (Prod.mk.inj (Except.ok.inj h)).1.symm

/-- A step of the graph, by its name: it creates a vertex or an edge, or it changes nothing. -/
lemma step?_cases {name : String} {st : Step} (h : g.step? name = some st) :
    (name = "upsert_vertex" ∧ ∀ given, st.run given = g.putVertex
      (Operation.plainArgument given "vertex_id") (Operation.plainArgument given "label")
      (Operation.plainArgument given "properties")) ∨
    (name = "upsert_edge" ∧ ∀ given, st.run given = g.putEdge
      (Operation.plainArgument given "label") (Operation.plainArgument given "out_id")
      (Operation.plainArgument given "in_id") (Operation.plainArgument given "properties")) ∨
    (name ≠ "upsert_vertex" ∧ name ≠ "upsert_edge") ∧
      ∀ given g' rows, st.run given = .ok (g', rows) → g' = g := by
  unfold step? at h
  split at h
  case h_1 => exact .inl ⟨rfl, fun given => by rw [← Option.some.inj h]⟩
  case h_2 => exact .inr (.inl ⟨rfl, fun given => by rw [← Option.some.inj h]⟩)
  case h_8 =>
      refine .inr (.inr ⟨by simp, fun given g' rows hrun => ?_⟩)
      rw [← Option.some.inj h] at hrun
      dsimp only at hrun
      split at hrun <;> exact (Prod.mk.inj (Except.ok.inj hrun)).1.symm
  case h_11 => exact absurd h (by simp)
  all_goals
    refine .inr (.inr ⟨by simp, fun given g' rows hrun => ?_⟩)
    rw [← Option.some.inj h] at hrun
    exact eq_of_map_ok hrun

/-- A step with arguments of any kind. -/
lemma carryOut_carries {step : Value} {given : NamedArguments}
    (h : g.carryOut step given = .ok (g', rows)) : g.Carries (.loose step given) g' rows := by
  unfold carryOut at h
  split at h
  case isTrue hempty =>
      obtain ⟨rfl, rfl⟩ := Prod.mk.inj (Except.ok.inj h)
      refine .of_not_puts (fun k hk => ?_) []
      have hstep : step = .str "upsert_vertex" ∨ step = .str "upsert_edge" := hk.step
      rcases hstep with rfl | rfl <;> simp [Value.text?] at hempty
  case isFalse =>
      split at h
      case h_1 st hfound =>
          obtain ⟨name, hname, hst⟩ := Option.bind_eq_some_iff.mp hfound
          obtain rfl : step = .str name := by
            cases step <;> simp_all [Value.text?]
          split at h
          case isTrue =>
              rcases step?_cases hst with ⟨rfl, hrun⟩ | ⟨rfl, hrun⟩ | ⟨⟨hv, he⟩, hrun⟩
              · rw [hrun] at h
                exact .putVertex rfl rfl h
              · rw [hrun] at h
                exact .putEdge rfl rfl rfl rfl h
              · rw [hrun given g' rows h]
                refine .of_not_puts (fun k hk => ?_) rows
                rcases hk.step with hstep | hstep
                · exact hv (Value.str.inj hstep)
                · exact he (Value.str.inj hstep)
          case isFalse => exact absurd h (by simp)
      case h_2 => split at h <;> exact absurd h (by simp)

/-- **Every operation that is carried out** does nothing or creates what it names, and a write
returns what has its key afterwards. -/
theorem execute_carries (h : g.execute op = .ok (g', rows)) : g.Carries op g' rows := by
  cases op with
  | upsertVertex id label properties =>
      obtain ⟨rfl, rfl⟩ := Prod.mk.inj (Except.ok.inj h)
      refine ⟨.upsertVertex ⟨rfl, rfl⟩ _ _, fun k hk _ => ?_⟩
      obtain ⟨s, hs, rfl⟩ := hk.eq_vertex rfl rfl
      rw [← Value.str.inj hs]
      rfl
  | upsertEdge label source target properties =>
      obtain ⟨rfl, rfl⟩ := Prod.mk.inj (Except.ok.inj h)
      refine ⟨.upsertEdge ⟨rfl, rfl, rfl, rfl⟩ _, fun k hk _ => ?_⟩
      obtain ⟨s, t, l, hs, ht, hl, rfl⟩ := hk.eq_edge rfl rfl rfl rfl
      rw [← Value.str.inj hs, ← Value.str.inj ht, ← Value.str.inj hl]
      rfl
  | loose step given => exact carryOut_carries h
  | _ =>
      simp only [execute, apply] at h
      rw [eq_of_map_ok (f := id) h]
      exact .of_not_puts (fun k hk => absurd hk.step (by simp [Operation.step])) rows

/-! ### Well-formed graphs -/

/-- No key is there twice, edges end at vertices, and they are numbered in their order. -/
structure WellFormed (g : Graph) : Prop extends g.Simple where
  closed : ∀ e ∈ g.edges, e.source ∈ g.vertexIds ∧ e.target ∈ g.vertexIds
  numbered : g.edges.map Edge.number = List.range' 1 g.edges.length

namespace WellFormed

lemma empty : Graph.empty.WellFormed where
  vertices := List.nodup_nil
  edges := List.nodup_nil
  closed _ he := absurd he List.not_mem_nil
  numbered := rfl

/-- What has a key is not the edge of vertices that are missing. -/
lemma supports (h : g.WellFormed) (hk : g.Has k) : g.Supports k := by
  cases k with
  | vertex id => trivial
  | edge source target label =>
      obtain ⟨e, he, heq⟩ := List.mem_map.mp hk
      obtain ⟨rfl, rfl, -⟩ := by simpa using heq
      exact h.closed e he

/-- Every edge has an identity of its own. -/
lemma nodup_edgeIds (h : g.WellFormed) : (g.edges.map Edge.id).Nodup := by
  have hids : g.edges.map Edge.id
      = (g.edges.map Edge.number).map fun n => "edge-" ++ toString n := by
    rw [List.map_map]
    rfl
  rw [hids, h.numbered]
  refine List.Nodup.map (fun m n hmn => ?_) List.nodup_range'
  exact Traversal.toString_natCast_inj.mp ((String.append_right_inj _).mp hmn)

end WellFormed

/-- **Operations keep a graph well-formed.** -/
theorem Adds.wellFormed (h : g.Adds op g') (hg : g.WellFormed) : g'.WellFormed := by
  cases h with
  | nothing => exact hg
  | @vertex id label properties _ hfree =>
      refine ⟨⟨?_, hg.edges⟩, fun e he => ?_, hg.numbered⟩
      · rw [vertexIds, List.map_append, ← vertexIds, List.map_singleton, ← List.concat_eq_append]
        exact hg.vertices.concat hfree
      · rw [vertexIds, List.map_append, ← vertexIds]
        exact (hg.closed e he).imp (List.mem_append_left _) (List.mem_append_left _)
  | @edge label source target properties _ hends hfree =>
      refine ⟨⟨hg.vertices, ?_⟩, fun e he => ?_, ?_⟩
      · rw [edgeKeys, List.map_append, ← edgeKeys, List.map_singleton, ← List.concat_eq_append]
        exact hg.edges.concat hfree
      · rcases List.mem_append.mp he with he | he
        · exact hg.closed e he
        · rw [List.mem_singleton.mp he]
          exact hends
      · rw [List.map_append, hg.numbered, List.length_append, List.length_singleton,
          List.range'_concat, Nat.add_comm, Nat.one_mul]
        rfl

end Graph

end EntityGraph
