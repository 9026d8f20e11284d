import EntityGraph.Proofs.Recording.Typing
import EntityGraph.Proofs.Search.Entities
import EntityGraph.Proofs.Search.Rows
/-!
Searches for several texts at once.

A search by entities and a search for a query text take different ways to their documents. The first
folds the texts into a conjunction without ever writing it down, the second writes them in quotes
with `AND` between them and reads that back.

* `joined`: the query text for some texts; `parse_joined` says that it writes the conjunction that
  they are folded into.
* `Graph.Names`, `Graph.naming`: a document names a text if an entity that is stored with it appears
  there; the documents that name all of some texts.
* `Graph.Simple.satisfying_of_conjunction`: these are the documents that satisfy the conjunction.
* `byEntities_depends_on_texts`: so the order of the texts does not matter, nor how often they are
  repeated, nor which of the two ways is taken.
-/

namespace EntityGraph

namespace Query

/-! ### Texts with `AND` between them -/

/-- Texts in quotes, with `AND` between them. -/
def joined (ts : List String) : String :=
  " AND ".intercalate (ts.map fun t => render (.term ⟨textField, t⟩))

lemma toList_render_text (t : String) : (render (.term ⟨textField, t⟩)).toList = quoteChars t :=
  String.toList_ofList

lemma toList_joined_cons (t : String) (rest : List String) : (joined (t :: rest)).toList
    = quoteChars t ++ rest.flatMap fun u => " AND ".toList ++ quoteChars u := by
  induction rest generalizing t with
  | nil => rw [joined, List.map_singleton, String.intercalate_singleton, toList_render_text,
      List.flatMap_nil, List.append_nil]
  | cons u rest ih =>
      rw [joined, List.map_cons, List.map_cons, String.intercalate_cons_cons, String.toList_append,
        String.toList_append, toList_render_text, List.flatMap_cons, List.append_assoc,
        List.append_assoc, ← ih]
      rfl

namespace Derivation

/-- A text in quotes. -/
def ofText (t : String) : Derivation .operand := .primary (.condition (.bare (.quoted t)))

/-- Texts in quotes, each of them after an `AND`. -/
def conjunctsOf : List String → Derivation .conjuncts
  | [] => .noConjunct
  | t :: rest => .conjunct "AND" (ofText t) (conjunctsOf rest)

lemma meaning_conjunctsOf (ts : List String) (l : Query) : (conjunctsOf ts).meaning l
    = ts.foldl (fun q t => .and q (.term ⟨textField, t⟩)) l := by
  induction ts generalizing l with
  | nil => rfl
  | cons t ts ih => exact ih _

lemma lexes_conjunctsOf (ts : List String) :
    Lexes (ts.flatMap fun u => " AND ".toList ++ quoteChars u) (conjunctsOf ts).yield := by
  induction ts with
  | nil => exact fun n => ⟨[], rfl, rfl⟩
  | cons t ts ih =>
      have hlex := (lexes_and.append (lexes_quoteChars t)).append ih
      simpa [conjunctsOf, ofText, yield, Condition.yield, Literal.lexeme] using hlex

end Derivation

/-- **Texts with `AND` between them** write the conjunction that they are folded into, whatever
characters they have. -/
theorem parse_joined {ts : List String} {q : Query} (h : Search.conjunction ts = some q) :
    parse (joined ts) = .ok q := by
  cases ts with
  | nil => exact absurd h (by simp [Search.conjunction])
  | cons t rest =>
      obtain rfl := Option.some.inj h
      rw [← Derivation.meaning_conjunctsOf]
      refine parse_of_lexes (d := .disjunction
        (.conjunction (.ofText t) (.conjunctsOf rest)) .noDisjunct) ?_
      rw [toList_joined_cons]
      have hlex := (lexes_quoteChars t).append (Derivation.lexes_conjunctsOf rest)
      simpa [Derivation.ofText, Derivation.yield, Condition.yield, Literal.lexeme] using hlex

end Query

/-! ### Documents that name texts -/

namespace Graph

variable {g : Graph} {ts ts' : List String}

/-- An entity that is stored with a text appears in a document. -/
def Names (g : Graph) (document text : String) : Prop :=
  ∃ v ∈ g.labelled entityLabel, v.hasText "text" text = true ∧
    (v.id, document, Relationship.appearsIn) ∈ g.edgeKeys

instance (document text : String) : Decidable (g.Names document text) :=
  decidable_of_iff ((g.labelled entityLabel).any fun v => v.hasText "text" text &&
    g.edgeKeys.contains (v.id, document, Relationship.appearsIn)) (by simp [Names])

/-- The documents that name all of some texts, in order. -/
def naming (g : Graph) (ts : List String) : List Vertex :=
  (g.labelled documentLabel).filter fun d => ∀ t ∈ ts, g.Names d.id t

/-- The documents depend on the set of the texts only. -/
lemma naming_congr (h : ∀ t, t ∈ ts ↔ t ∈ ts') : g.naming ts = g.naming ts' := by
  simp only [naming, h]

/-- A document satisfies a text if it names it. -/
lemma Simple.satisfies_iff_names (h : g.Simple) {document text : String} :
    g.satisfies document (.str "text", .str text) = true ↔ g.Names document text := by
  simp only [satisfies, List.any_eq_true, h.mem_appearing_iff, Vertex.holds_str, Names, labelled,
    List.mem_filter, Vertex.isEntity]
  grind

/-- **The documents that satisfy a conjunction** of texts are those that name all of them. -/
lemma Simple.satisfying_of_conjunction (h : g.Simple) {q : Query}
    (hq : Search.conjunction ts = some q) : g.satisfying q = g.naming ts := by
  refine List.filter_congr fun d _ => ?_
  rw [Search.holds_conjunction hq, Bool.eq_iff_iff, List.all_eq_true, decide_eq_true_iff]
  exact forall₂_congr fun t _ => h.satisfies_iff_names

end Graph

namespace Search

open Recording Query

variable {s : Session} {cs : List Call} {b : Bounds} {n : Int}

/-- The rows of the first documents that name all of some texts. -/
def namingRows (g : Graph) (ts : List String) (n : Int) : List Row :=
  ((g.naming ts).take n.toNat).map fun d => Row.flatten d.row

lemma namingRows_congr {g : Graph} {ts ts' : List String} (h : ∀ t, t ∈ ts ↔ t ∈ ts') (n : Int) :
    namingRows g ts n = namingRows g ts' n := by
  rw [namingRows, namingRows, Graph.naming_congr h]

/-- A search by entities returns the documents that name all of their texts. -/
lemma byEntities_eq_naming (hg : s.graph.Simple) (hs : s.Faultless) {es : List Entity}
    (hes : es ≠ []) (hn : 1 ≤ n) (hmost : n ≤ b.maxLimit) :
    ∃ s', byEntities b es (.int n) s = (.ok (namingRows s.graph (es.map (·.text)) n), s') := by
  obtain ⟨s', hrun⟩ := byEntities_of_faultless b hes (n := n) (by omega) hs
  have hdocuments : ((s.graph.labelled documentLabel).filter fun d => es.all fun e =>
      s.graph.satisfies d.id (.str "text", .str e.text)) = s.graph.naming (es.map (·.text)) := by
    refine List.filter_congr fun d _ => ?_
    rw [Bool.eq_iff_iff, List.all_eq_true, decide_eq_true_iff, List.forall_mem_map]
    exact forall₂_congr fun e _ => hg.satisfies_iff_names
  rw [hdocuments, Int.min_eq_left hmost] at hrun
  exact ⟨s', hrun⟩

/-- A search for texts with `AND` between them returns the documents that name all of them. -/
lemma keywords_eq_naming (hg : s.graph.Simple) (hs : s.Faultless) {ts : List String}
    (hts : ts ≠ []) (hn : 1 ≤ n) (hmost : n ≤ b.maxLimit) :
    ∃ s', keywords b (.str (joined ts)) (.int n) s = (.ok (namingRows s.graph ts n), s') := by
  obtain ⟨q, hq⟩ : ∃ q, conjunction ts = some q := by
    cases ts with
    | nil => exact absurd rfl hts
    | cons t rest => exact ⟨_, rfl⟩
  have hlimit : b.asked (.int n) = .int n := rfl
  obtain ⟨s', hrun⟩ := keywords_of_faultless b (joined ts) hlimit (by omega) hs
  rw [Graph.found_of_parse (parse_joined hq), hg.satisfying_of_conjunction hq,
    Int.min_eq_left hmost, Graph.vertexRows, List.map_map] at hrun
  exact ⟨s', hrun⟩

/-- Lists with the same members are both empty or both not. -/
lemma ne_nil_of_same_members {α : Type} {xs ys : List α} (h : ∀ x, x ∈ ys ↔ x ∈ xs)
    (hxs : xs ≠ []) : ys ≠ [] := by
  obtain ⟨x, hx⟩ := List.exists_mem_of_ne_nil xs hxs
  exact List.ne_nil_of_mem ((h x).mpr hx)

/-- The terms of a conjunction are its texts, in order. -/
lemma terms_of_conjunction {ts : List String} {q : Query} (h : conjunction ts = some q) :
    q.terms = ts.map fun t => ⟨textField, t⟩ := by
  have hfold : ∀ (rest : List String) (q : Query),
      (rest.foldl (fun q t => .and q (.term ⟨textField, t⟩)) q).terms
        = q.terms ++ rest.map fun t => ⟨textField, t⟩ := by
    intro rest
    induction rest with
    | nil => simp
    | cons t rest ih =>
        intro q
        rw [List.foldl_cons, ih, terms, terms, List.map_cons, List.append_assoc]
        rfl
  cases ts with
  | nil => exact absurd h (by simp [conjunction])
  | cons t rest =>
      obtain rfl := Option.some.inj h
      rw [hfold, terms, List.map_cons]
      rfl

/-- No two lists of texts have the same conjunction. -/
lemma conjunction_injective : Function.Injective conjunction := by
  rintro (_ | ⟨t, rest⟩) (_ | ⟨t', rest'⟩) h
  · rfl
  · exact absurd h (by simp [conjunction])
  · exact absurd h (by simp [conjunction])
  · have hq : conjunction (t :: rest) = some _ := rfl
    have hterms := (terms_of_conjunction hq).symm.trans (terms_of_conjunction h.symm)
    exact List.map_injective_iff.mpr (fun t t' ht => (Term.mk.inj ht).2) hterms

/-- **A search by entities depends on the set of their texts only.** Whatever has been recorded, it
returns the first documents, in the order of their creation, that name each of the texts. So it
returns the same for all entities with the same set of texts, although the conjunctions that are
evaluated tell the order in which the texts come up first; and it returns the same as a search for
the texts in quotes with `AND` between them, in any order and with any repetitions. -/
theorem byEntities_depends_on_texts (R : Recordings cs s.graph) (hs : s.Faultless)
    {es : List Entity} (hes : es ≠ []) (hn : 1 ≤ n) (hmost : n ≤ b.maxLimit) :
    (∀ es' : List Entity, (∀ t, t ∈ es'.map (·.text) ↔ t ∈ es.map (·.text)) →
      (∃ s', byEntities b es' (.int n) s
        = (.ok (namingRows s.graph (es.map (·.text)) n), s')) ∧
      (conjunction (es'.map (·.text)).eraseDups = conjunction (es.map (·.text)).eraseDups ↔
        (es'.map (·.text)).eraseDups = (es.map (·.text)).eraseDups)) ∧
    ∀ ts : List String, (∀ t, t ∈ ts ↔ t ∈ es.map (·.text)) →
      ∃ s', keywords b (.str (joined ts)) (.int n) s
        = (.ok (namingRows s.graph (es.map (·.text)) n), s') := by
  have hg : s.graph.Simple := R.wellFormed.toSimple
  have htexts : es.map (·.text) ≠ [] := mt List.map_eq_nil_iff.mp hes
  refine ⟨fun es' hsame => ⟨?_, conjunction_injective.eq_iff⟩, fun ts hsame => ?_⟩
  · have hes' := mt List.map_eq_nil_iff.mpr (ne_nil_of_same_members hsame htexts)
    rw [← namingRows_congr hsame]
    exact byEntities_eq_naming hg hs hes' hn hmost
  · rw [← namingRows_congr hsame]
    exact keywords_eq_naming hg hs (ne_nil_of_same_members hsame htexts) hn hmost

/-- A quotation and a path, with characters that have a meaning in query texts. -/
def quip : Document where
  id := "quip"
  metadata := []
  entities := [⟨⟨"say \"hi\"", "Event"⟩, none, 0.9, none, none⟩,
    ⟨⟨"c:\\ AND (", "Product"⟩, none, 0.9, none, none⟩]

/-- The graph after they have been recorded. -/
def afterQuip : Graph := (record {} quip {}).2.graph

/-- Both entities, the path first and twice, return the quotation, and so does their query text. -/
theorem byEntities_depends_on_texts_of_quip :
    (∃ cs, Recordings cs afterQuip) ∧
      conjunction ["c:\\ AND (", "say \"hi\""] ≠ conjunction ["say \"hi\"", "c:\\ AND ("] ∧
      ∃ rows, rows.map (fun row => (Fields.get? row "id").bind Value.text?) = [some "quip"] ∧
        (∃ s', byEntities {} quip.entities (.int 5) { graph := afterQuip } = (.ok rows, s')) ∧
        (∃ s', byEntities {} (quip.entities.reverse ++ quip.entities) (.int 5)
          { graph := afterQuip } = (.ok rows, s')) ∧
        ∃ s', keywords {} (.str "\"c:\\\\ AND (\" AND \"say \\\"hi\\\"\"") (.int 5)
          { graph := afterQuip } = (.ok rows, s') := by
  have R : Recordings _ afterQuip := Recordings.nil.next (s := {}) {} quip
  have hentered : quip.entities ≠ [] := List.cons_ne_nil _ _
  obtain ⟨hentities, htexts⟩ := byEntities_depends_on_texts (s := { graph := afterQuip }) (b := {})
    (n := 5) R (.of_eq_nil rfl) hentered (by decide) (by decide)
  have hquery : joined ["c:\\ AND (", "say \"hi\""]
      = "\"c:\\\\ AND (\" AND \"say \\\"hi\\\"\"" := by decide
  have hagain : ∀ t, t ∈ (quip.entities.reverse ++ quip.entities).map (·.text) ↔
      t ∈ quip.entities.map (·.text) := by simp
  have hswapped : ∀ t, t ∈ ["c:\\ AND (", "say \"hi\""] ↔ t ∈ quip.entities.map (·.text) := by
    simp [quip, or_comm]
  refine ⟨⟨_, R⟩, conjunction_injective.ne (by decide), _, by decide +kernel,
    (hentities _ fun _ => Iff.rfl).1, (hentities _ hagain).1, ?_⟩
  rw [← hquery]
  exact htexts _ hswapped

end Search

end EntityGraph
