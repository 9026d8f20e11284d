import EntityGraph.Proofs.Search.Run
import EntityGraph.Proofs.Search.Terms
/-!
Searching for the documents in which all of some entities appear.

* `holds_conjunction`: a conjunction of texts holds if every text does.
* `byEntities_of_faultless`: the documents that are returned are the first ones in which each of the
  texts is that of an entity.
* `found_by_entities_iff`: a document is found by entities of its own exactly if each of them is
  spelled as in its first mention, which may be in another document.
-/

namespace EntityGraph

namespace Search

open EntityGraph.Action

variable {s : Session}

/-- A conjunction of texts holds if every text does. -/
lemma holds_conjunction {ts : List String} {q : Query} (h : conjunction ts = some q)
    (truth : Term → Bool) :
    q.holds truth = ts.all fun t => truth ⟨Query.textField, t⟩ := by
  have hfold : ∀ (rest : List String) (q : Query),
      (rest.foldl (fun q t => .and q (.term ⟨Query.textField, t⟩)) q).holds truth
        = (q.holds truth && rest.all fun t => truth ⟨Query.textField, t⟩) := by
    intro rest
    induction rest with
    | nil => simp
    | cons t rest ih =>
        intro q
        rw [List.foldl_cons, ih, Query.holds, Query.holds, List.all_cons, Bool.and_assoc]
  cases ts with
  | nil => exact absurd h (by simp [conjunction])
  | cons t rest =>
      obtain rfl := Option.some.inj h
      rw [hfold, Query.holds, List.all_cons]

/-- **The documents that are found by entities**: the first ones in which each of the texts is that
of an entity, as many as the search gets. -/
theorem byEntities_of_faultless (b : Bounds) {es : List Entity} (hes : es ≠ []) {n : Int}
    (hn : 1 ≤ min n b.maxLimit) (hs : s.Faultless) :
    ∃ s', byEntities b es (.int n) s
      = (.ok ((((s.graph.labelled documentLabel).filter fun d => es.all fun e =>
          s.graph.satisfies d.id (.str "text", .str e.text)).take (min n b.maxLimit).toNat).map
            fun d => Row.flatten d.row), s') := by
  obtain ⟨s₁, hlimit, hgraph, hfaults⟩ := b.limit_of_pos (by omega : 1 ≤ n) s
  have hs₁ : s₁.Faultless := by rwa [Session.Faultless, hfaults]
  rw [byEntities, bind_of_ok hlimit, ← hgraph]
  obtain ⟨q, hq⟩ : ∃ q, conjunction (es.map (·.text)).eraseDups = some q := by
    cases es with
    | nil => exact absurd rfl hes
    | cons e es => exact ⟨_, by rw [List.map_cons, List.eraseDups_cons, conjunction]⟩
  have htruth : ∀ d : Vertex, (q.holds fun t => s₁.graph.satisfies d.id t.asked)
      = es.all fun e => s₁.graph.satisfies d.id (.str "text", .str e.text) := by
    intro d
    rw [holds_conjunction hq, Bool.eq_iff_iff, List.all_eq_true, List.all_eq_true]
    simp only [List.mem_eraseDups, List.forall_mem_map]
    rfl
  have hexecute := s₁.graph.execute_matchDocuments q hn
  simp only [htruth] at hexecute
  obtain ⟨s', hrun⟩ := runFlat_of_faultless (t := Traversal.matching q (min n b.maxLimit))
    "search_by_entities" hs₁ hexecute
  refine ⟨s', ?_⟩
  simp only [hq]
  rw [bind_of_ok (discard_positive "limit" hn s₁), hrun, Graph.vertexRows, List.map_map]
  rfl

/-! ### Documents and their own entities -/

section Found

open Recording Recording.History

variable {p : Policy} {d : Document} {r : Recorded} {g : Graph} {h : List (Document × Recorded)}

/-- The row of a document tells its id. -/
lemma get?_id_of_labelled (H : History p h g) (hids : IdsApart p h) {v : Vertex}
    (hv : v ∈ g.labelled documentLabel) :
    Fields.get? (Row.flatten v.row) "id" = some (.str v.id) := by
  obtain ⟨x, time, -, rfl⟩ := H.documentVertex_of_labelled hids hv
  exact Vertex.get?_id_flatten_row (id_not_mem_documentVertex x.1 time)

/-- A search that has room for all documents returns a document exactly if each of the texts is that
of an entity in it. -/
lemma found_iff_satisfies (H : History p h g) (hids : IdsApart p h) (hmem : (d, r) ∈ h)
    (b : Bounds) {es : List Entity} (hes : es ≠ []) {n : Int}
    (hroom : (g.labelled documentLabel).length ≤ min n b.maxLimit) (hs : s.Faultless)
    (hg : s.graph = g) :
    ∃ rows s', byEntities b es (.int n) s = (.ok rows, s') ∧
      ((∃ row ∈ rows, Fields.get? row "id" = some (.str d.id)) ↔
        ∀ e ∈ es, g.satisfies d.id (.str "text", .str e.text) = true) := by
  subst hg
  obtain ⟨v, hlabelled, hid⟩ := H.exists_document_vertex hids hmem
  have hpos := List.length_pos_of_mem hlabelled
  obtain ⟨s', hrun⟩ := byEntities_of_faultless b hes (n := n) (by omega) hs
  have hcut : ∀ sat : Vertex → Bool, ((s.graph.labelled documentLabel).filter sat).length
      ≤ (min n b.maxLimit).toNat := by
    intro sat
    have hfilter := List.length_filter_le sat (s.graph.labelled documentLabel)
    omega
  rw [List.take_of_length_le (hcut _)] at hrun
  refine ⟨_, s', hrun, ?_⟩
  simp only [List.mem_map, List.mem_filter, List.all_eq_true]
  constructor
  · rintro ⟨_, ⟨w, ⟨hw, htexts⟩, rfl⟩, hrow⟩
    rw [get?_id_of_labelled H hids hw, Option.some.injEq, Value.str.injEq] at hrow
    rwa [hrow] at htexts
  · intro htexts
    refine ⟨_, ⟨v, ⟨hlabelled, ?_⟩, rfl⟩, ?_⟩
    · rwa [hid]
    · rw [get?_id_of_labelled H hids hlabelled, hid]

/-- **A document and its own entities**: a search for some of the entities that were reported for a
document, with room for all documents, returns the document exactly if each of these entities is
spelled as in its first mention, in whatever document that is. -/
theorem found_by_entities_iff (H : History p h g) (hids : IdsApart p h) (hmem : (d, r) ∈ h)
    (b : Bounds) {es : List Entity} (hes : es ≠ []) (hreported : es ⊆ r.persisted) {n : Int}
    (hroom : (g.labelled documentLabel).length ≤ min n b.maxLimit) (hs : s.Faultless)
    (hg : s.graph = g) :
    ∃ rows s', byEntities b es (.int n) s = (.ok rows, s') ∧
      ((∃ row ∈ rows, Fields.get? row "id" = some (.str d.id)) ↔
        ∀ e ∈ es, ∃ first, Entity.IsFirst (mentions p h) first ∧ first.id = e.id ∧
          first.text = e.text) := by
  obtain ⟨rows, s', hrun, hfound⟩ := found_iff_satisfies H hids hmem b hes hroom hs hg
  refine ⟨rows, s', hrun, hfound.trans (forall₂_congr fun e he => ?_)⟩
  rw [H.reported hmem] at hreported
  exact H.satisfies_text_iff hids hmem (hreported he)

/-- The ids of the letter and the memo are those of no entities. -/
lemma idsApart_of_letter_or_memo {h : List (Document × Recorded)}
    (hh : ∀ x ∈ h, x.1 = letter ∨ x.1 = memo) : IdsApart {} h :=
  idsApart_of_not_prefix fun x hx => by
    rcases hh x hx with heq | heq
    · rw [heq]
      decide
    · rw [heq]
      decide

lemma reported_letter : letter.entities.Sublist (recorded {} letter).persisted := by
  show letter.entities.Sublist (Entity.confident _ _)
  rw [confident_letter]

/-- A letter that is recorded first is found by its entity. -/
theorem found_by_entities_of_letter_and_memo :
    ∃ g rows s', History {} [(letter, recorded {} letter), (memo, recorded {} memo)] g ∧
      byEntities {} letter.entities (.int 50) { graph := g } = (.ok rows, s') ∧
      ∃ row ∈ rows, Fields.get? row "id" = some (.str "letter") := by
  obtain ⟨g, H⟩ : ∃ g, History {} [(letter, recorded {} letter), (memo, recorded {} memo)] g :=
    History.nil.exists_append [letter, memo]
  have hids := idsApart_of_letter_or_memo
    (h := [(letter, recorded {} letter), (memo, recorded {} memo)]) (by simp)
  have hroom : ((g.labelled documentLabel).length : Int) ≤ min 50 500 := by
    have hle := H.length_labelled_le hids
    rw [List.length_cons, List.length_singleton] at hle
    omega
  obtain ⟨rows, s', hrun, hfound⟩ := found_by_entities_iff (s := { graph := g }) H hids
    List.mem_cons_self {} (List.cons_ne_nil _ _) reported_letter.subset hroom
    (.of_eq_nil rfl) rfl
  refine ⟨g, rows, s', H, hrun, hfound.mpr fun e he => ⟨e, ?_, rfl, rfl⟩⟩
  obtain rfl := List.mem_singleton.mp he
  rw [mentions, List.flatMap_cons, confident_letter]
  exact (Entity.isFirst_cons_of_eq rfl).mpr rfl

/-- Two of the entities of the memo. -/
def adaAndBerlin : List Entity :=
  [⟨⟨"Ada", "Person"⟩, none, 0.9, none, none⟩,
    ⟨⟨"Berlin", "Location"⟩, some "City", 0.9, some 4, some 6⟩]

lemma reported_adaAndBerlin : adaAndBerlin.Sublist (recorded {} memo).persisted := by
  have hconfident : Entity.confident (Policy.threshold {}) memo.entities = memo.entities :=
    List.filter_eq_self.mpr (by decide +kernel)
  show adaAndBerlin.Sublist (Entity.confident _ _)
  rw [hconfident]
  exact .cons_cons _ (.cons _ (.refl _))

/-- The memo is not found by these entities of its own, since the letter that was recorded before it
has another spelling. -/
theorem not_found_by_entities_of_letter_and_memo :
    ∃ g rows s', History {} [(letter, recorded {} letter), (memo, recorded {} memo)] g ∧
      IdsApart {} [(letter, recorded {} letter), (memo, recorded {} memo)] ∧
      adaAndBerlin ≠ [] ∧ adaAndBerlin.Sublist (recorded {} memo).persisted ∧
      (g.labelled documentLabel).length ≤ 50 ∧
      byEntities {} adaAndBerlin (.int 50) { graph := g } = (.ok rows, s') ∧
      ¬ ∃ row ∈ rows, Fields.get? row "id" = some (.str "memo") := by
  obtain ⟨g, H⟩ : ∃ g, History {} [(letter, recorded {} letter), (memo, recorded {} memo)] g :=
    History.nil.exists_append [letter, memo]
  have hids := idsApart_of_letter_or_memo
    (h := [(letter, recorded {} letter), (memo, recorded {} memo)]) (by simp)
  have hmem : (memo, recorded {} memo) ∈
      [(letter, recorded {} letter), (memo, recorded {} memo)] :=
    List.mem_cons_of_mem _ List.mem_cons_self
  have hle := H.length_labelled_le hids
  rw [List.length_cons, List.length_singleton] at hle
  have hroom : ((g.labelled documentLabel).length : Int) ≤ min 50 500 := by omega
  have hne : adaAndBerlin ≠ [] := List.cons_ne_nil _ _
  obtain ⟨rows, s', hrun, hfound⟩ := found_iff_satisfies (s := { graph := g }) H hids hmem {} hne
    hroom (.of_eq_nil rfl) rfl
  refine ⟨g, rows, s', H, hids, hne, reported_adaAndBerlin, by omega, hrun, ?_⟩
  intro hrow
  have hberlin : ⟨⟨"Berlin", "Location"⟩, some "City", 0.9, some 4, some 6⟩ ∈ adaAndBerlin :=
    List.mem_cons_of_mem _ List.mem_cons_self
  obtain ⟨first, hfirst, hid, htext⟩ := (H.satisfies_text_iff hids hmem
    (reported_adaAndBerlin.subset hberlin)).mp (hfound.mp hrow _ hberlin)
  rw [mentions, List.flatMap_cons, confident_letter] at hfirst
  have hlower : Text.lower "berlin" = Text.lower "Berlin" := by decide
  have hsame : vertexId "berlin" = vertexId "Berlin" := by
    rw [vertexId, hlower, vertexId]
  have heq := (Entity.isFirst_cons_of_eq (e := ⟨⟨"berlin", "Organization"⟩, none, 0.9, none, none⟩)
    (a := first) (hsame.trans hid.symm)).mp hfirst
  rw [← heq] at htext
  exact absurd htext (by decide)

end Found

end Search

end EntityGraph
