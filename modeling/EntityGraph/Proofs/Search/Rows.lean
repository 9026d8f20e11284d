import EntityGraph.Proofs.Search.Keywords
import EntityGraph.Proofs.Search.Run
/-!
The rows that searches return.

* `ids`, `entities`: the ids that rows tell, and the entities in rows of appearances.
  `mem_ids_vertexRows_iff` and `nodup_ids_vertexRows` read them off the vertices.
* `documentsFor_of_faultless`, `entitiesIn_of_faultless`, `keywords_of_faultless`: what a search
  returns when no fault strikes.
* `documentsFor_inv`, `entitiesIn_inv`, `keywords_inv`: whatever a search returns, for whatever it
  was asked, is of this form.
-/

namespace EntityGraph

namespace Search

open EntityGraph.Action EntityGraph.Graph Query

variable {b : Bounds} {s s' : Session} {rows : List Row} {g : Graph}

/-! ### The ids in rows -/

/-- The ids that rows tell. -/
def ids (rows : List Row) : List (Option Value) := rows.map fun row => Fields.get? row "id"

/-- The entities in rows of appearances. -/
def entities (rows : List Row) : List Row := rows.map fun row => row.inner "entity"

/-- No property of a vertex is taken for its id. -/
def Plain (v : Vertex) : Prop := "id" ∉ v.properties.map Prod.fst

lemma ids_vertexRows {vs : List Vertex} (h : ∀ v ∈ vs, Plain v) :
    ids ((vertexRows vs).map Row.flatten) = (vs.map Vertex.id).map fun id => some (.str id) := by
  simp only [ids, vertexRows, List.map_map]
  exact List.map_congr_left fun v hv => Vertex.get?_id_flatten_row (h v hv)

lemma entities_appearanceRows (found : List (Edge × Vertex)) :
    entities ((found.map appearanceRow).map Row.flattenAppearance)
      = (vertexRows (found.map Prod.snd)).map Row.flatten := by
  simp only [entities, vertexRows, List.map_map]
  exact List.map_congr_left fun _ _ => rfl

/-- Rows of vertices tell an id if one of the vertices has it. -/
lemma mem_ids_vertexRows_iff {vs : List Vertex} (h : ∀ v ∈ vs, Plain v) (id : String) :
    some (.str id) ∈ ids ((vertexRows vs).map Row.flatten) ↔ ∃ v ∈ vs, v.id = id := by
  have hinj : Function.Injective fun id : String => some (Value.str id) :=
    fun a b hab => Value.str.inj (Option.some.inj hab)
  rw [ids_vertexRows h, List.mem_map_of_injective hinj, List.mem_map]

/-- Rows of different vertices tell different ids. -/
lemma nodup_ids_vertexRows {vs : List Vertex} (h : ∀ v ∈ vs, Plain v)
    (hnodup : (vs.map Vertex.id).Nodup) : (ids ((vertexRows vs).map Row.flatten)).Nodup := by
  rw [ids_vertexRows h]
  exact hnodup.map fun a b hab => Value.str.inj (Option.some.inj hab)

/-! ### What the searches return -/

lemma limited_sublist {α : Type} (k : Int) (xs : List α) : (limited k xs).Sublist xs := by
  rw [limited]
  split
  · exact List.take_sublist _ _
  · exact List.take_sublist _ _

/-- A limit that has room for everything leaves nothing out. -/
lemma limited_of_length_le {α : Type} {k : Int} {xs : List α} (h : xs.length ≤ k) :
    limited k xs = xs := by
  rw [limited, if_pos (by omega), List.take_of_length_le (by omega)]

/-- The documents in which an entity appears. -/
lemma documentsFor_of_faultless (b : Bounds) {x : String} (hx : Text.isBlankText x = false)
    {n : Int} (hn : 1 ≤ n) (hs : s.Faultless) :
    ∃ s', documentsFor b (.str x) (.int n) s = (.ok ((vertexRows
      (s.graph.documentsForEntity (vertexId x) (min n b.maxLimit))).map Row.flatten), s') := by
  obtain ⟨s₁, hlimit, hgraph, hfaults⟩ := b.limit_of_pos hn s
  have hs₁ : s₁.Faultless := by rwa [Session.Faultless, hfaults]
  rw [documentsFor, bind_of_ok (needText_of_not_blank "entity_text" hx s), bind_of_ok hlimit,
    ← hgraph]
  exact runFlat_of_faultless "find_documents_for_entity" hs₁ rfl

lemma documentsFor_inv {text limit : Value} (h : documentsFor b text limit s = (.ok rows, s')) :
    ∃ x k, rows
      = (vertexRows (s.graph.documentsForEntity (vertexId x) k)).map Row.flatten := by
  obtain ⟨x, s₁, htext, h⟩ := exists_of_bind_ok h
  obtain ⟨k, s₂, hlimit, h⟩ := exists_of_bind_ok h
  obtain ⟨g, answer, hanswer, rfl⟩ := graph_execute_of_runFlat h
  obtain ⟨-, -, -, -, hgraph⟩ := Bounds.limit_inv hlimit
  obtain ⟨-, rfl⟩ := ofExcept_inv htext
  obtain ⟨rfl, rfl⟩ := Prod.mk.inj (Except.ok.inj hanswer)
  exact ⟨x, k, by rw [← hgraph]; rfl⟩

/-- The entities that appear in a document. -/
lemma entitiesIn_of_faultless {id : String} (hid : Text.isBlankText id = false)
    (hs : s.Faultless) : ∃ s', entitiesIn (.str id) s = (.ok
      (((s.graph.entitiesInDocument id).map appearanceRow).map Row.flattenAppearance), s') := by
  obtain ⟨s', hrun⟩ := run_of_faultless (t := .entitiesInDocument id)
    "find_entities_in_document" hs rfl
  refine ⟨s', ?_⟩
  rw [entitiesIn, bind_of_ok (needText_of_not_blank "document_id" hid s), bind_of_ok hrun]
  rfl

lemma entitiesIn_inv {document : Value} (h : entitiesIn document s = (.ok rows, s')) :
    ∃ id, rows
      = ((s.graph.entitiesInDocument id).map appearanceRow).map Row.flattenAppearance := by
  obtain ⟨id, s₁, htext, h⟩ := exists_of_bind_ok h
  obtain ⟨answer, s₂, hrun, hpure⟩ := exists_of_bind_ok h
  obtain ⟨-, rfl⟩ := ofExcept_inv htext
  obtain ⟨g, hanswer⟩ := graph_execute_of_run hrun
  obtain ⟨rfl, rfl⟩ := Prod.mk.inj (Except.ok.inj hanswer)
  exact ⟨id, (Except.ok.inj (congrArg Prod.fst hpure)).symm⟩

/-- The number of documents that a keyword search asks for. -/
def Bounds.asked (b : Bounds) (limit : Value) : Value :=
  match limit with
  | .null => b.defaultLimit
  | v => v

/-- What is logged about a query text does not matter for the graph. -/
lemma logReading_frame (given : Value) (text : String) (s : Session) :
    ∃ s', logReading given text s = (.ok (), s') ∧ s'.graph = s.graph ∧ s'.faults = s.faults := by
  rw [logReading]
  cases parse text with
  | ok q => exact ⟨s, rfl, rfl, rfl⟩
  | error e => exact ⟨_, rfl, rfl, rfl⟩

/-- The traversal of a query text. -/
lemma keywordTraversal_of_pos (text : String) {n : Int} (hn : 1 ≤ n) (s : Session) :
    ∃ t s', keywordTraversal (.str text) n s = (.ok t, s') ∧
      Traversal.search text (.int n) = .ok t ∧ s'.graph = s.graph ∧ s'.faults = s.faults := by
  obtain ⟨t, hsearch, -⟩ := s.graph.execute_search text hn
  obtain ⟨s', hlog, hgraph, hfaults⟩ := logReading_frame (.str text) text s
  refine ⟨t, s', ?_, hsearch, hgraph, hfaults⟩
  rw [keywordTraversal, bind_of_ok (discard_positive "limit" hn s)]
  show (logReading (.str text) text >>= fun _ => _) s = _
  rw [bind_of_ok hlog, hsearch]
  rfl

/-- The documents that satisfy a query text. -/
lemma keywords_of_faultless (b : Bounds) (text : String) {limit : Value} {n : Int}
    (hlimit : b.asked limit = .int n) (hn : 1 ≤ min n b.maxLimit) (hs : s.Faultless) :
    ∃ s', keywords b (.str text) limit s
      = (.ok ((vertexRows (s.graph.found text (min n b.maxLimit))).map Row.flatten), s') := by
  obtain ⟨s₁, hbound, hgraph, hfaults⟩ := b.limit_of_pos (by omega : 1 ≤ n) s
  obtain ⟨t, s₂, ht, hsearch, hgraph', hfaults'⟩ := keywordTraversal_of_pos text hn s₁
  have hs₂ : s₂.Faultless := by rwa [Session.Faultless, hfaults', hfaults]
  obtain ⟨t', hsearch', hexecute⟩ := s₂.graph.execute_search text hn
  obtain rfl := Except.ok.inj (hsearch.symm.trans hsearch')
  have hasked : keywords b (.str text) limit = b.limit (b.asked limit) >>= fun limit => _ := rfl
  rw [hasked, hlimit, bind_of_ok hbound, bind_of_ok ht, ← hgraph, ← hgraph']
  exact runFlat_of_faultless "search" hs₂ hexecute

lemma keywordTraversal_inv {query : Value} {k : Int} {t : Traversal}
    (h : keywordTraversal query k s = (.ok t, s')) :
    ∃ text, Traversal.search text (.int k) = .ok t ∧ s'.graph = s.graph := by
  obtain ⟨⟨⟩, s₁, hcheck, hread⟩ := exists_of_bind_ok h
  obtain ⟨n, s₂, hpositive, hpure⟩ := exists_of_bind_ok hcheck
  obtain rfl : s₂ = s₁ := congrArg Prod.snd hpure
  obtain ⟨-, rfl⟩ := ofExcept_inv hpositive
  cases htext : query.readable? with
  | none =>
      rw [htext] at hread
      exact absurd (congrArg Prod.fst hread) (by simp [Action.fail])
  | some text =>
      rw [htext] at hread
      obtain ⟨⟨⟩, s₃, hlog, hcompile⟩ := exists_of_bind_ok hread
      obtain ⟨s₄, hlog', hgraph, -⟩ := logReading_frame query text s₂
      obtain rfl : s₄ = s₃ := congrArg Prod.snd (hlog'.symm.trans hlog)
      obtain ⟨hsearch, rfl⟩ := ofExcept_inv hcompile
      exact ⟨text, hsearch, hgraph⟩

lemma keywords_inv {query limit : Value} (h : keywords b query limit s = (.ok rows, s')) :
    ∃ text k, rows = (vertexRows (s.graph.found text k)).map Row.flatten := by
  obtain ⟨k, s₁, hlimit, h⟩ := exists_of_bind_ok h
  obtain ⟨t, s₂, ht, h⟩ := exists_of_bind_ok h
  obtain ⟨-, -, -, -, hgraph⟩ := Bounds.limit_inv hlimit
  obtain ⟨text, hsearch, hgraph'⟩ := keywordTraversal_inv ht
  have hk : 1 ≤ k := by
    by_contra hk
    rw [search_of_not_positive text (by omega)] at hsearch
    exact absurd hsearch (by simp)
  obtain ⟨g, answer, hanswer, rfl⟩ := graph_execute_of_runFlat h
  obtain ⟨t', hsearch', hexecute⟩ := s₂.graph.execute_search text hk
  obtain rfl := Except.ok.inj (hsearch.symm.trans hsearch')
  obtain ⟨-, rfl⟩ := Prod.mk.inj (Except.ok.inj (hanswer.symm.trans hexecute))
  exact ⟨text, k, by rw [hgraph', hgraph]⟩

end Search

end EntityGraph
