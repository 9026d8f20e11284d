import EntityGraph.Proofs.Recording.Paging
import EntityGraph.Proofs.Recording.Provenance
import EntityGraph.Proofs.Search.Rows
/-!
The metadata of a document in the rows of searches.

* `Fields.setAll_eq_append`, `Vertex.flatten_row`: where no two keys are the same, a row has the id,
  the label and then the properties, in their order.
* `documentRow`, `flatten_row_documentVertex`: the row of a document, in which its metadata cannot
  hide what the graph says about it.
* `Graph.Sole`: a vertex is the only one with its id. It stays so, whatever is recorded later.
* `sole_of_record`: the first recording of a document creates its vertex, at the time that the clock
  shows.
* `rows_tell_metadata`: so every later search that returns the document returns this row.
-/

namespace EntityGraph

/-! ### Rows of vertices -/

/-- A field with a new key is written behind the other ones. -/
lemma Fields.set_eq_append {fields : Fields} {k : String} (h : k ∉ fields.map Prod.fst)
    (v : Value) : fields.set k v = fields ++ [(k, v)] := by
  induction fields with
  | nil => rfl
  | cons field fields ih =>
      rw [List.map_cons, List.mem_cons, not_or] at h
      rw [set, if_neg (Ne.symm h.1), ih h.2]
      rfl

/-- So are several such fields. -/
lemma Fields.setAll_eq_append {fields more : Fields}
    (h : ((fields ++ more).map Prod.fst).Nodup) : fields.setAll more = fields ++ more := by
  induction more generalizing fields with
  | nil => exact (List.append_nil fields).symm
  | cons field more ih =>
      have hnew : field.1 ∉ fields.map Prod.fst := fun hmem => by
        rw [List.map_append, List.map_cons] at h
        exact (List.nodup_append.mp h).2.2 _ hmem _ List.mem_cons_self rfl
      have hmore : (fields ++ [field]).setAll more = fields ++ [field] ++ more :=
        ih (by simpa using h)
      rw [List.append_assoc] at hmore
      exact (congrArg (Fields.setAll · more) (set_eq_append hnew field.2)).trans hmore

/-- **A row has the id, the label and the properties**, in this order, if no two of them have the
same key. -/
lemma Vertex.flatten_row {v : Vertex} (h : ("id" :: "label" :: v.properties.map Prod.fst).Nodup) :
    Row.flatten v.row = ("id", .str v.id) :: ("label", Row.unwrap v.label) :: v.properties := by
  let wrapped : Fields := v.properties.map fun field => (field.1, .list [field.2])
  have hkeys : (([("id", Value.str v.id), ("label", v.label)] ++ wrapped).map Prod.fst).Nodup := by
    rw [List.map_append, List.map_map]
    exact h
  have hunwrapped : Row.flatten wrapped = v.properties := by
    rw [Row.flatten, List.map_map]
    exact List.map_id v.properties
  calc Row.flatten v.row
      = Row.flatten ([("id", .str v.id), ("label", v.label)] ++ wrapped) :=
        congrArg Row.flatten (Fields.setAll_eq_append hkeys)
    _ = ("id", .str v.id) :: ("label", Row.unwrap v.label) :: Row.flatten wrapped := rfl
    _ = ("id", .str v.id) :: ("label", Row.unwrap v.label) :: v.properties := by rw [hunwrapped]

/-- The row of a document that was recorded at some time: what the graph says about it, with its
metadata in between, apart from those under keys of the graph. -/
def documentRow (d : Document) (time : String) : Row :=
  [("id", .str d.id), ("label", .str "document")]
    ++ (Metadata.toFields <| d.metadata.filter fun (k, _) =>
      k ∉ ["id", "label", "category", "partitionKey", "processedAt"])
    ++ [("processedAt", .str time), ("category", .str "document"),
      ("partitionKey", .str "document")]

lemma allowedMetadata_toFields (m : Metadata) : Recording.allowedMetadata m.toFields
    = Metadata.toFields (m.filter fun (k, _) =>
      k ∉ ["id", "label", "category", "partitionKey", "processedAt"]) := by
  rw [Recording.allowedMetadata, Metadata.toFields, Metadata.toFields, List.filter_map]
  refine congrArg _ (List.filter_congr fun entry _ => ?_)
  simp [Recording.reservedKeys]

/-- **The row of a document.** -/
lemma flatten_row_documentVertex {d : Document} (h : (d.metadata.map Prod.fst).Nodup)
    (time : String) : Row.flatten (documentVertex d time).row = documentRow d time := by
  have hallowed : ∀ k ∈ (Recording.allowedMetadata d.metadata.toFields).map Prod.fst,
      k ∉ Recording.reservedKeys := by
    intro k hk
    obtain ⟨field, hfield, rfl⟩ := List.mem_map.mp hk
    simpa using (List.mem_filter.mp hfield).2
  have hkeys : ((Recording.allowedMetadata d.metadata.toFields).map Prod.fst).Nodup := by
    refine List.Nodup.sublist (List.filter_sublist.map Prod.fst) ?_
    rwa [Metadata.toFields, List.map_map]
  have hnodup : ("id" :: "label" :: (documentVertex d time).properties.map Prod.fst).Nodup := by
    rw [properties_documentVertex, Recording.documentProperties, List.map_append]
    have hown : ["id", "label", "processedAt", "category", "partitionKey"].Nodup := by decide
    have hapart : ∀ k ∈ (Recording.allowedMetadata d.metadata.toFields).map Prod.fst,
        k ∉ ["id", "label", "processedAt", "category", "partitionKey"] := fun k hk => by
      have := hallowed k hk
      simp only [Recording.reservedKeys, List.mem_cons, not_or] at this ⊢
      tauto
    generalize (Recording.allowedMetadata d.metadata.toFields).map Prod.fst = keys at *
    grind [List.nodup_append]
  rw [Vertex.flatten_row hnodup, properties_documentVertex, Recording.documentProperties,
    allowedMetadata_toFields]
  rfl

/-! ### The only vertex with an id -/

namespace Graph

variable {g : Graph} {v : Vertex}

lemma vertex_mem_elements_iff : .vertex v ∈ g.elements ↔ v ∈ g.vertices := by
  simp [elements]

/-- A vertex is there, and no other one has its id. -/
structure Sole (g : Graph) (v : Vertex) : Prop where
  mem : v ∈ g.vertices
  eq : ∀ u ∈ g.vertices, u.id = v.id → u = v

/-- A vertex that is created is the only one with its id. -/
lemma sole_write_vertex {id label : String} {properties : String → Fields} (time : String)
    (h : g.hasVertex id = false) : (g.write (.vertex id label properties) time).Sole
      ⟨id, .str label, Traversal.present (properties time)⟩ := by
  have hnew : id ∉ g.vertexIds := fun hmem => by
    rw [hasVertex_iff.mpr hmem] at h
    exact Bool.noConfusion h
  rw [write_vertex, upsertVertex, if_neg (by rw [h]; exact Bool.false_ne_true)]
  refine ⟨List.mem_append_right _ (List.mem_singleton_self _), fun u hu hid => ?_⟩
  obtain hu | hu := List.mem_append.mp hu
  · have hmem : u.id ∈ g.vertexIds := List.mem_map_of_mem hu
    rw [hid] at hmem
    exact absurd hmem hnew
  · exact List.mem_singleton.mp hu

/-- No write creates a vertex with an id that is taken. -/
lemma Sole.write (h : g.Sole v) (w : Write) (time : String) : (g.write w time).Sole v := by
  obtain hsame | ⟨hfree, hkeeps, number, hperm⟩ := write_cases g w time
  · rwa [hsame]
  · refine ⟨hkeeps.vertices.subset h.mem, fun u hu hid => ?_⟩
    obtain hold | hmade := List.mem_append.mp (hperm.subset (vertex_mem_elements_iff.mpr hu))
    · exact h.eq u (vertex_mem_elements_iff.mp hold) hid
    · have hkey : w.key = .vertex v.id := by
        rw [← Write.key_make w time number, ← List.mem_singleton.mp hmade, Element.key, hid]
      refine absurd ?_ hfree
      rw [hkey]
      exact List.mem_map_of_mem h.mem

lemma Sole.writeAll (h : g.Sole v) (ops : List (Write × String)) : (g.writeAll ops).Sole v := by
  induction ops generalizing g with
  | nil => exact h
  | cons op ops ih => exact ih (h.write op.1 op.2)

end Graph

namespace Recording

variable {p : Policy} {d : Document} {s : Session} {g g' : Graph} {v : Vertex}

/-- **The first recording of a document**, if it comes as far, creates its vertex at the time that
the clock shows. -/
lemma sole_of_record (hfresh : s.graph.hasVertex d.id = false)
    (hmade : (record p d s).2.graph.hasVertex d.id = true) :
    (record p d s).2.graph.Sole (documentVertex d s.clock.text) := by
  obtain hsame | ⟨ops, -, hgraph⟩ := record_made p d s
  · rw [hsame, hfresh] at hmade
    exact Bool.noConfusion hmade
  · rw [hgraph]
    exact (Graph.sole_write_vertex s.clock.text hfresh).writeAll ops

/-- A recording that succeeds has come as far. -/
lemma hasVertex_of_ok {r : Recorded} (h : (record p d s).1 = .ok r) :
    (record p d s).2.graph.hasVertex d.id = true :=
  Graph.hasVertex_iff.mpr ((has_record_iff (Prod.ext h rfl)).mpr (.inr .document))

namespace Later

lemma sole (h : Later g g') (hv : g.Sole v) : g'.Sole v := by
  induction h with
  | now => exact hv
  | @next s past p d ih =>
      obtain ⟨ops, -, hgraph⟩ := (record_performs p d).made s
      rw [hgraph]
      exact ih.writeAll ops

end Later

/-- What a recording creates hides no id. -/
lemma plain_record (hs : ∀ v ∈ s.graph.vertices, Search.Plain v) :
    ∀ v ∈ (record p d s).2.graph.vertices, Search.Plain v := by
  intro v hv
  obtain hold | ⟨w, hw, time, number, heq⟩ :=
    mem_elements_record (Graph.vertex_mem_elements_iff.mpr hv)
  · exact hs v (Graph.vertex_mem_elements_iff.mp hold)
  · obtain rfl | ⟨e, -, rfl | rfl⟩ | ⟨a, b, -, hrel⟩ := mem_writes_iff.mp hw
    · rw [Element.vertex.inj heq]
      exact id_not_mem_documentVertex d time
    · rw [Element.vertex.inj heq]
      exact id_not_mem_entityVertex e time
    · exact Element.noConfusion heq
    · obtain ⟨-, rfl⟩ := (mem_relationshipWrites_iff rfl).mp hrel
      exact Element.noConfusion heq

lemma Later.plain (h : Later g g') (hg : ∀ v ∈ g.vertices, Search.Plain v) :
    ∀ v ∈ g'.vertices, Search.Plain v := by
  induction h with
  | now => exact hg
  | next past p d ih => exact plain_record ih

end Recording

namespace Search

open Recording

variable {d : Document} {s t t' : Session} {rows : List Row}

/-- A search for documents returns the rows of some vertices. -/
lemma exists_vertices_of_documents {b : Bounds} {given limit : Value}
    (h : keywords b given limit t = (.ok rows, t') ∨
      documentsFor b given limit t = (.ok rows, t')) :
    ∃ vs ⊆ t.graph.vertices, rows = (Graph.vertexRows vs).map Row.flatten := by
  obtain h | h := h
  · obtain ⟨text, k, rfl⟩ := keywords_inv h
    refine ⟨_, fun v hv => ?_, rfl⟩
    exact (List.mem_filter.mp ((Graph.found_sublist _ text k).subset hv)).1
  · obtain ⟨x, k, rfl⟩ := documentsFor_inv h
    refine ⟨_, fun v hv => ?_, rfl⟩
    exact Graph.documentsOf_subset ((limited_sublist k _).subset hv)

/-- **Metadata reach the rows of searches.** Take a document whose id is new in the graph, and which
has come into it by a recording, as it has when the recording succeeds. Whatever is recorded later,
a search for documents that returns its vertex returns the row of the document as it was recorded
first, with the time of that recording. If no vertex was there before with a property that hides its
id, this is the only row with the id of the document. -/
theorem rows_tell_metadata (p : Policy) {b : Bounds} {given limit : Value}
    (hkeys : (d.metadata.map Prod.fst).Nodup) (hfresh : s.graph.hasVertex d.id = false)
    (hmade : (record p d s).2.graph.hasVertex d.id = true)
    (hlater : Later (record p d s).2.graph t.graph)
    (hrows : keywords b given limit t = (.ok rows, t') ∨
      documentsFor b given limit t = (.ok rows, t')) :
    (∃ vs ⊆ t.graph.vertices, rows = (Graph.vertexRows vs).map Row.flatten ∧
      ∀ v ∈ vs, v.id = d.id → Row.flatten v.row = documentRow d s.clock.text) ∧
    ((∀ v ∈ s.graph.vertices, Plain v) → ∀ row ∈ rows,
      Fields.get? row "id" = some (.str d.id) → row = documentRow d s.clock.text) := by
  have hsole := hlater.sole (sole_of_record hfresh hmade)
  obtain ⟨vs, hvs, rfl⟩ := exists_vertices_of_documents hrows
  have hrow : ∀ v ∈ vs, v.id = d.id → Row.flatten v.row = documentRow d s.clock.text := by
    intro v hv hid
    rw [hsole.eq v (hvs hv) hid]
    exact flatten_row_documentVertex hkeys s.clock.text
  refine ⟨⟨vs, hvs, rfl, hrow⟩, fun hplain row hmem hid => ?_⟩
  obtain ⟨_, hrow', rfl⟩ := List.mem_map.mp hmem
  obtain ⟨v, hv, rfl⟩ := List.mem_map.mp hrow'
  refine hrow v hv ?_
  rw [Vertex.get?_id_flatten_row (hlater.plain (plain_record hplain) v (hvs hv))] at hid
  exact Value.str.inj (Option.some.inj hid)

/-- A letter whose metadata try to pass for what the graph says about it. -/
def forgedLetter : Document where
  id := "letter"
  metadata := [("title", "Greetings"), ("label", "entity"), ("processedAt", "never"), ("mood", "")]
  entities := [⟨⟨"Berlin", "Location"⟩, some "City", 0.9, none, none⟩]

/-- The session after the letter has been recorded. -/
def afterLetter : Session := (record {} forgedLetter {}).2

/-- The session after the letter has been recorded again with a new title. -/
def afterBoth : Session :=
  (record {} { forgedLetter with metadata := [("title", "Farewell")] } afterLetter).2

/-- The place of the letter finds it under its first title, and with its own label and time. -/
theorem rows_tell_metadata_of_forgedLetter :
    ∃ rows t', documentsFor {} (.str "Berlin") (.int 5) afterBoth = (.ok rows, t') ∧
      [("id", .str "letter"), ("label", .str "document"), ("title", .str "Greetings"),
        ("mood", .str ""), ("processedAt", .str Clock.standard.text),
        ("category", .str "document"), ("partitionKey", .str "document")] ∈ rows := by
  have hevaluated : afterBoth.faults = [] ∧
      "letter" ∈ (afterBoth.graph.documentsForEntity (vertexId "Berlin") 5).map Vertex.id := by
    decide +kernel
  obtain ⟨hfaults, hfound⟩ := hevaluated
  obtain ⟨s', hrecorded⟩ := (record_performs {} forgedLetter).succeeds (s := {}) (.of_eq_nil rfl)
  have hmade := hasVertex_of_ok (congrArg Prod.fst hrecorded)
  have hlater : Later (record {} forgedLetter {}).2.graph afterBoth.graph := by
    rw [afterBoth, afterLetter]
    exact .next .now {} _
  obtain ⟨t', hrun⟩ := documentsFor_of_faultless (s := afterBoth) {} (x := "Berlin")
    (by decide) (n := 5) (by decide) (.of_eq_nil hfaults)
  obtain ⟨v, hv, hid⟩ := List.mem_map.mp hfound
  have hmem : Row.flatten v.row ∈ (Graph.vertexRows (afterBoth.graph.documentsForEntity
      (vertexId "Berlin") 5)).map Row.flatten := List.mem_map_of_mem (List.mem_map_of_mem hv)
  have hempty : ∀ v ∈ ({} : Session).graph.vertices, Plain v :=
    fun v hv => absurd hv List.not_mem_nil
  have hplain : Plain v := hlater.plain (plain_record hempty) v
    (Graph.documentsOf_subset ((limited_sublist _ _).subset hv))
  have hrow := (rows_tell_metadata {} (s := {}) (d := forgedLetter) (by decide) rfl hmade hlater
    (.inr hrun)).2 hempty _ hmem (by rw [Vertex.get?_id_flatten_row hplain, hid]; rfl)
  rw [hrow] at hmem
  exact ⟨_, t', hrun, hmem⟩

end Search

end EntityGraph
