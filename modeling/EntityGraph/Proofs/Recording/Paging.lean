import EntityGraph.Proofs.Graph.Connections
import EntityGraph.Proofs.Graph.Pairs
import EntityGraph.Proofs.Graph.Prefixes
import EntityGraph.Proofs.Query.Evaluation
import EntityGraph.Proofs.Recording.Typing
import EntityGraph.Proofs.Recording.Vertices
import EntityGraph.Proofs.Search.Keywords
/-!
What becomes of an answer when more rows are asked for, and when the same is asked for later.

* `Graph.exists_execute`: in a graph whose entities have texts every read with a limit succeeds, as
  long as nothing foreign stands in a query.
* `Recordings.stored`, `Recordings.texted`: what has been recorded is such a graph.
* `Graph.Keeps.satisfying_sublist`: a document that satisfies a query without negations does so in
  all later graphs.
* `Later`: a graph after further recordings.
* `Recordings.answers_extend`: so answers extend in both ways.
-/

namespace EntityGraph

namespace Graph

variable {g g' : Graph} {n : Int}

/-! ### Reads that succeed -/

/-- A filter finds something if every check of it does. -/
lemma exists_filterM_eq_ok {α ε : Type} {check : α → Except ε Bool} {xs : List α}
    (h : ∀ x ∈ xs, ∃ b, check x = .ok b) : ∃ found, xs.filterM check = .ok found := by
  have hrun : ∀ kept, ∃ found, List.filterAuxM check xs kept = .ok found := by
    induction xs with
    | nil => exact fun kept => ⟨kept, rfl⟩
    | cons x xs ih =>
        obtain ⟨⟨b, hx⟩, hxs⟩ := List.forall_mem_cons.mp h
        intro kept
        rw [List.filterAuxM, hx]
        exact ih hxs _
  obtain ⟨found, hfound⟩ := hrun []
  exact ⟨found.reverse, by rw [List.filterM, hfound]; rfl⟩

/-- Whether a text occurs in another one can always be told. -/
lemma contains_str (pattern text : String) :
    contains (.str pattern) (.str text) = .ok (occursIn pattern.toList text.toList) := by
  by_cases htext : text = ""
  · rw [htext]
    rfl
  · simp [contains, Value.isEmptyLike, htext]

lemma exists_execute_entitiesByText (h : g.Stored) (pattern : String) (category : Option String)
    (limit : Int) : ∃ rows, g.execute (.entitiesByText pattern category limit) = .ok (g, rows) := by
  obtain ⟨found, hfound⟩ : ∃ found, g.entitiesByText pattern category limit = .ok found := by
    have hcheck : ∀ v ∈ (g.labelled entityLabel).filter
        fun v => category.all (v.hasText "category"),
        ∃ b, contains (.str pattern) (v.property "text") = .ok b := by
      intro v hv
      obtain ⟨t, ht⟩ := h v (List.mem_filter.mp hv).1
      exact ⟨_, by rw [ht, contains_str]⟩
    obtain ⟨all, hall⟩ := exists_filterM_eq_ok hcheck
    exact ⟨limited limit all, by rw [entitiesByText, hall]; rfl⟩
  refine ⟨vertexRows found, ?_⟩
  show ((fitting (g.entitiesByText pattern category limit)).map vertexRows).map _ = _
  rw [hfound]
  rfl

/-- A read with a limit finds its rows if all texts that it looks at are there, and if nothing
foreign stands in a query. -/
lemma exists_execute (hstored : g.Stored) (htexted : g.Texted) {op : Operation}
    (hop : op.limit? = some n) (hn : 1 ≤ n)
    (hquery : ∀ draft, op = .matchDocuments draft n → ∃ q, draft = .ofQuery q) :
    ∃ rows, g.execute op = .ok (g, rows) := by
  have hn' : 0 ≤ n := by omega
  cases op with
  | matchDocuments draft limit =>
      obtain rfl := Option.some.inj hop
      obtain ⟨q, rfl⟩ := hquery draft rfl
      exact ⟨_, execute_matchDocuments q hn⟩
  | entitiesByText pattern category limit => exact exists_execute_entitiesByText hstored _ _ _
  | frequentPairs minimum limit =>
      obtain rfl := Option.some.inj hop
      exact ⟨_, execute_frequentPairs htexted minimum hn'⟩
  | commonConnections seeds limit =>
      obtain rfl := Option.some.inj hop
      exact ⟨_, execute_commonConnections hstored seeds hn'⟩
  | entitiesByCategory | relatedEntities | documentsForEntity => exact ⟨_, rfl⟩
  | upsertVertex | upsertEdge | entitiesInDocument | nothing | loose =>
      exact absurd hop (by simp [Operation.limit?])

/-! ### Later graphs -/

/-- What is satisfied in a document stays so while the graph grows. -/
lemma Keeps.satisfies (h : g.Keeps g') (hg : g.Simple) (hg' : g'.Simple) {document : String}
    {asked : Asked} (hs : g.satisfies document asked = true) :
    g'.satisfies document asked = true := by
  simp only [Graph.satisfies, List.any_eq_true, hg.mem_appearing_iff, hg'.mem_appearing_iff] at hs ⊢
  obtain ⟨v, ⟨hv, hentity, hedge⟩, hholds⟩ := hs
  have hedge' : g'.Has (.edge v.id document Relationship.appearsIn) :=
    h.has (k := .edge v.id document Relationship.appearsIn) hedge
  exact ⟨v, ⟨h.vertices.subset hv, hentity, hedge'⟩, hholds⟩

/-- **A document that satisfies a query without negations** does so in all later graphs, and the
documents stay in their order. -/
theorem Keeps.satisfying_sublist (h : g.Keeps g') (hg : g.Simple) (hg' : g'.Simple) {q : Query}
    (hq : q.Positive) : (g.satisfying q).Sublist (g'.satisfying q) := by
  have hsame : (g.satisfying q).Sublist
      ((g.labelled documentLabel).filter fun d => q.holds fun t => g'.satisfies d.id t.asked) :=
    List.monotone_filter_right _ fun d hd =>
      hq.holds_mono (fun t ht => h.satisfies hg hg' ht) hd
  exact hsame.trans (((h.vertices.filter _).sublist).filter _)

/-- With room for all documents, all that satisfy a query are returned. -/
lemma execute_matchDocuments_of_room (q : Query) (hn : 1 ≤ n)
    (hroom : (g.labelled documentLabel).length ≤ n) :
    g.execute (.matchDocuments (.ofQuery q) n) = .ok (g, vertexRows (g.satisfying q)) := by
  have hle : (g.satisfying q).length ≤ (g.labelled documentLabel).length :=
    List.length_filter_le _ _
  rw [execute_matchDocuments q hn, ← satisfying, List.take_of_length_le (by omega)]

end Graph

namespace Recording

variable {cs : List Call} {g g' : Graph} {v : Vertex}

/-- A graph after further recordings, whatever is recorded and whether it succeeds or not. -/
inductive Later (g : Graph) : Graph → Prop where
  | now : Later g g
  | next {s : Session} (past : Later g s.graph) (p : Policy) (d : Document) :
      Later g (record p d s).2.graph

namespace Later

/-- Nothing is lost. -/
lemma keeps (h : Later g g') : g.Keeps g' := by
  induction h with
  | now => exact .refl g
  | next past p d ih => exact ih.trans (keeps_record p d _)

/-- What was recorded first and what was recorded later are one row of recordings. -/
lemma exists_recordings (h : Later g g') (R : Recordings cs g) :
    ∃ more, Recordings (cs ++ more) g' := by
  induction h with
  | now => exact ⟨[], by rwa [List.append_nil]⟩
  | next past p d ih =>
      obtain ⟨more, R'⟩ := ih
      exact ⟨_, by rw [← List.append_assoc]; exact R'.next p d⟩

end Later

namespace Recordings

/-- What is labelled as an entity was made from a mention. -/
lemma entity_cases (R : Recordings cs g) (hv : v ∈ g.labelled entityLabel) :
    ∃ e time, v = entityVertex e time := by
  obtain ⟨hvertex, hentity⟩ := List.mem_filter.mp hv
  have hx : Element.vertex v ∈ g.elements := List.mem_append_left _ (List.mem_map_of_mem hvertex)
  obtain ⟨c, -, w, hw, time, number, heq⟩ := R.element_cases hx
  rcases mem_writes_iff.mp hw with rfl | ⟨e, -, rfl | rfl⟩ | ⟨a, b, -, hrel⟩
  · obtain rfl : v = documentVertex c.document time := Element.vertex.inj heq
    exact absurd (hentity.symm.trans (isEntity_documentVertex c.document time)) (by decide)
  · exact ⟨e, time, Element.vertex.inj heq⟩
  · exact Element.noConfusion heq
  · obtain ⟨-, rfl⟩ := (mem_relationshipWrites_iff rfl).mp hrel
    exact Element.noConfusion heq

/-- Every entity is stored with a text. -/
lemma stored (R : Recordings cs g) : g.Stored := by
  intro v hv
  obtain ⟨e, time, rfl⟩ := R.entity_cases hv
  exact ⟨e.text, rfl⟩

/-- Everything that appears somewhere has a text. -/
lemma texted (R : Recordings cs g) (hids : ∀ id, ¬ Shared cs id) : g.Texted := by
  intro document v hv
  obtain ⟨hvertex, hedge⟩ := R.wellFormed.toSimple.mem_map_snd_appearances_iff.mp hv
  obtain ⟨e, he, heq⟩ := List.mem_map.mp hedge
  obtain ⟨hsource, -, hlabel⟩ := by simpa using heq
  obtain ⟨u, hu, hid, hentity⟩ :=
    (R.wellTyped_apart_from_shared.appearance e he hlabel).1.resolve_right (hids e.source)
  obtain rfl : u = v :=
    List.inj_on_of_nodup_map R.wellFormed.vertices hu hvertex (hid.trans hsource)
  refine R.stored u (List.mem_filter.mpr ⟨hu, ?_⟩)
  rw [Vertex.hasLabel, hentity]
  exact beq_self_eq_true _

/-- **Answers extend.** Whatever has been recorded, every read with a limit succeeds if it asks for a
positive number of rows and, when it is a query, if this has nothing foreign in it. With a smaller
limit it returns the first rows of what it returns with a larger one, and it leaves the graph as it
is. After further recordings a query without negations still returns all documents that it has
returned before, when there is room for all: the same rows, in the same order. -/
theorem answers_extend (R : Recordings cs g) (hids : ∀ id, ¬ Shared cs id) :
    (∀ (op : Operation) (m n : Int), op.limit? = some n → 1 ≤ m → m ≤ n →
      ((∀ draft, op = .matchDocuments draft n → ∃ q, draft = .ofQuery q) →
        ∃ rows, g.execute op = .ok (g, rows)) ∧
      ∀ g' rows, g.execute op = .ok (g', rows) →
        g' = g ∧ g.execute (op.withLimit m) = .ok (g, rows.take m.toNat)) ∧
    ∀ g', Later g g' → ∀ q : Query, q.Positive → ∀ room room' : Int, 1 ≤ room → 1 ≤ room' →
      (g.labelled documentLabel).length ≤ room → (g'.labelled documentLabel).length ≤ room' →
      ∃ rows rows', g.execute (.matchDocuments (.ofQuery q) room) = .ok (g, rows) ∧
        g'.execute (.matchDocuments (.ofQuery q) room') = .ok (g', rows') ∧
        rows.Sublist rows' := by
  refine ⟨fun op m n hop hm hmn => ⟨fun hquery => ?_, fun g' rows h => ?_⟩,
    fun g' hlater q hq room room' hpos hpos' hroom hroom' => ?_⟩
  · exact Graph.exists_execute R.stored (R.texted hids) hop (by omega) hquery
  · exact Graph.execute_withLimit hop hm hmn h
  · obtain ⟨more, R'⟩ := hlater.exists_recordings R
    refine ⟨_, _, Graph.execute_matchDocuments_of_room q hpos hroom,
      Graph.execute_matchDocuments_of_room q hpos' hroom', ?_⟩
    exact (hlater.keeps.satisfying_sublist R.wellFormed.toSimple R'.wellFormed.toSimple hq).map _

/-- A postcard that mentions the place of the letter. -/
def postcard : Document where
  id := "postcard"
  metadata := []
  entities := [⟨⟨"berlin", "Location"⟩, some "City", 0.9, none, none⟩]

/-- The graph after the letter has been recorded. -/
def afterLetter : Graph := (record {} History.letter {}).2.graph

/-- The graph after the postcard has been recorded as well. -/
def afterPostcard : Graph := (record {} postcard { graph := afterLetter }).2.graph

/-- The query for the place of both. -/
def fromBerlin (limit : Int) : Operation :=
  .matchDocuments (.ofQuery (.term ⟨Query.textField, "berlin"⟩)) limit

/-- The letter is found by its place, and still is when the postcard is found as well. Of the two
documents the first is returned when one is asked for. -/
theorem answers_extend_of_letter_and_postcard :
    (∃ cs, Recordings cs afterPostcard ∧ ∀ id, ¬ Shared cs id) ∧ Later afterLetter afterPostcard ∧
    ∃ first second : Row,
      afterPostcard.execute (fromBerlin 2) = .ok (afterPostcard, [first, second]) ∧
      afterPostcard.execute (fromBerlin 1) = .ok (afterPostcard, [first]) ∧
      ∃ rows, afterLetter.execute (fromBerlin 5) = .ok (afterLetter, rows) ∧
        rows.Sublist [first, second] := by
  have R : Recordings _ afterLetter := Recordings.nil.next (s := {}) {} History.letter
  -- stated for every graph, since unification would otherwise unfold the recording of the letter
  have hnext : ∀ {cs : List Call} {g : Graph}, Recordings cs g →
      Recordings (cs ++ [⟨{}, postcard, (record {} postcard { graph := g }).1⟩])
        (record {} postcard { graph := g }).2.graph ∧
      Later g (record {} postcard { graph := g }).2.graph := fun {_ g} R =>
    ⟨Recordings.next (s := { graph := g }) R {} postcard, .next (s := { graph := g }) .now {} _⟩
  obtain ⟨R', hlater⟩ : Recordings _ afterPostcard ∧ Later afterLetter afterPostcard := hnext R
  have hids : ∀ {cs : List Call},
      (∀ c ∈ cs, c.document = History.letter ∨ c.document = postcard) → ∀ id, ¬ Shared cs id := by
    intro cs hcs
    refine not_shared_of_not_prefix fun c hc => ?_
    rcases hcs c hc with heq | heq
    · rw [heq]
      decide
    · rw [heq]
      decide
  have hevaluated : (afterLetter.labelled documentLabel).length = 1 ∧
      (afterPostcard.labelled documentLabel).length = 2 ∧
      (afterPostcard.execute (fromBerlin 2)).toOption.map (fun answer => answer.2.length)
        = some 2 := by
    decide +kernel
  obtain ⟨hletters, hdocuments, hlength⟩ := hevaluated
  obtain ⟨hpages, -⟩ := answers_extend R' (hids (by simp))
  obtain ⟨-, hgrows⟩ := answers_extend R (hids (by simp))
  obtain ⟨found, found', hletter, hboth, hsublist⟩ :=
    hgrows afterPostcard hlater (.term ⟨Query.textField, "berlin"⟩) trivial 5 2 (by decide)
      (by decide) (by rw [hletters]; decide) (by rw [hdocuments]; decide)
  have hpage := ((hpages (fromBerlin 2) 1 2 rfl (by decide) (by decide)).2 _ _ hboth).2
  obtain ⟨first, second, rfl⟩ : ∃ first second, found' = [first, second] := by
    rw [fromBerlin, hboth] at hlength
    exact List.length_eq_two.mp (Option.some.inj hlength)
  exact ⟨⟨_, R', hids (by simp)⟩, hlater, first, second, hboth, hpage, found, hletter, hsublist⟩

end Recordings

end Recording

end EntityGraph
