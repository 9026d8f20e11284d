import EntityGraph.Proofs.Query.Acceptance
import EntityGraph.Proofs.Query.Scanning
/-!
Queries written as text and read back.

* `Known`: every term of a query asks about the text or about one of the filter fields.
* `exists_derivation_of_known`: what such a query renders to is scanned to the yield of a derivation
  that means it; the parentheses and quotes of the rendering leave no choice.
* `Derivation.meansKnown`: every derivation means such a query.
* `parse_render_iff`: rendering and reading back is the identity on these queries, and they are
  exactly the queries that texts write.
-/

namespace EntityGraph.Query

/-- The fields that a text can name: the text field and the filter fields. -/
def writableFields : List String := textField :: filterFields

/-- Every term of a query has a field that a text can name. -/
def Known (q : Query) : Prop := ∀ t ∈ q.terms, t.field ∈ writableFields

lemma known_term {t : Term} : Known (.term t) ↔ t.field ∈ writableFields := by
  simp [Known, terms]

lemma known_and {l r : Query} : Known (.and l r) ↔ Known l ∧ Known r := by
  simp [Known, terms, or_imp, forall_and]

lemma known_or {l r : Query} : Known (.or l r) ↔ Known l ∧ Known r := by
  simp [Known, terms, or_imp, forall_and]

lemma known_not {x : Query} : Known (.not x) ↔ Known x := by
  simp [Known, terms]

/-! ### Renderings are derived -/

/-- What a term renders to is scanned to a condition that writes the term. -/
lemma exists_condition {t : Term} (h : t.field ∈ writableFields) :
    ∃ c : Condition, c.term = t ∧ Lexes (Term.renderChars t) c.yield := by
  by_cases ht : t.field = textField
  · refine ⟨.bare (.quoted t.value), ?_, ?_⟩
    · rw [Condition.term, ← ht]
      rfl
    · rw [Term.renderChars, if_pos ht]
      exact lexes_quoteChars t.value
  · have hfield : t.field ∈ filterFields := (List.mem_cons.mp h).resolve_left ht
    refine ⟨.filter t.field t.field ⟨hfield, rfl⟩ (.quoted t.value), rfl, ?_⟩
    rw [Term.renderChars, if_neg ht, ← List.singleton_append, ← List.append_assoc]
    exact (lexes_field hfield).append (lexes_quoteChars t.value)

lemma lexes_leftParen : Lexes ['('] [.leftParen] := fun _ => ⟨_, rfl, rfl⟩

lemma lexes_rightParen : Lexes [')'] [.rightParen] := fun _ => ⟨_, rfl, rfl⟩

lemma lexes_and : Lexes " AND ".toList [.and "AND"] := fun _ => ⟨_, rfl, rfl⟩

lemma lexes_or : Lexes " OR ".toList [.or "OR"] := fun _ => ⟨_, rfl, rfl⟩

lemma lexes_not : Lexes "NOT ".toList [.not "NOT"] := fun _ => ⟨_, rfl, rfl⟩

/-- Two pieces with an operator between them, all in parentheses. -/
lemma lexes_group {cs ds op : List Char} {w v o : List Lexeme} (hl : Lexes cs w)
    (hop : Lexes op o) (hr : Lexes ds v) :
    Lexes ('(' :: cs ++ op ++ ds ++ [')']) (.leftParen :: (w ++ o ++ v ++ [.rightParen])) := by
  have h := (((lexes_leftParen.append hl).append hop).append hr).append lexes_rightParen
  simpa using h

/-- What a query renders to is scanned to the yield of an operand that means the query. -/
lemma exists_derivation_of_known {q : Query} (h : Known q) :
    ∃ d : Derivation .operand, d.meaning = q ∧ Lexes q.renderChars d.yield := by
  induction q with
  | term t =>
      obtain ⟨c, hc, hlex⟩ := exists_condition (known_term.mp h)
      exact ⟨.primary (.condition c), congrArg Query.term hc, hlex⟩
  | and l r ihl ihr =>
      obtain ⟨hl, hr⟩ := known_and.mp h
      obtain ⟨d, rfl, hd⟩ := ihl hl
      obtain ⟨e, rfl, he⟩ := ihr hr
      refine ⟨.primary (.group (.disjunction
        (.conjunction d (.conjunct "AND" e .noConjunct)) .noDisjunct)), rfl, ?_⟩
      have hlex := lexes_group hd lexes_and he
      simpa [Derivation.yield, renderChars] using hlex
  | or l r ihl ihr =>
      obtain ⟨hl, hr⟩ := known_or.mp h
      obtain ⟨d, rfl, hd⟩ := ihl hl
      obtain ⟨e, rfl, he⟩ := ihr hr
      refine ⟨.primary (.group (.disjunction (.conjunction d .noConjunct)
        (.disjunct "OR" (.conjunction e .noConjunct) .noDisjunct))), rfl, ?_⟩
      have hlex := lexes_group hd lexes_or he
      simpa [Derivation.yield, renderChars] using hlex
  | not x ih =>
      obtain ⟨d, rfl, hd⟩ := ih (known_not.mp h)
      exact ⟨.negation "NOT" d, rfl, lexes_not.append hd⟩

/-- A query with writable fields is read back from its rendering. -/
lemma parse_render_of_known {q : Query} (h : Known q) : parse q.render = .ok q := by
  obtain ⟨d, rfl, hlex⟩ := exists_derivation_of_known h
  have hrender : Lexes d.meaning.render.toList d.yield := by rwa [render, String.toList_ofList]
  obtain ⟨tokens, htokens, hmap⟩ := hrender.tokenize
  rw [parse_of_tokenize htokens, parseTokens_eq_ok_iff]
  refine ⟨.disjunction (.conjunction d .noConjunct) .noDisjunct, ?_, rfl⟩
  simp [Derivation.yield, hmap]

/-! ### Derivations mean queries with writable fields -/

/-- A derivation means a query with writable fields; a repetition turns such queries into such
queries. -/
def Derivation.MeansKnown : {s : Symbol} → Derivation s → Prop
  | .disjunction, d | .conjunction, d | .operand, d | .primary, d => Known d.meaning
  | .disjuncts, d | .conjuncts, d => ∀ l, Known l → Known (d.meaning l)

/-- The field of a condition is writable. -/
lemma Condition.field_mem (c : Condition) : c.term.field ∈ writableFields := by
  cases c with
  | bare v => exact List.mem_cons_self
  | filter name field h v => exact List.mem_cons_of_mem textField h.1

/-- Every derivation means a query with writable fields. -/
lemma Derivation.meansKnown {s : Symbol} (d : Derivation s) : d.MeansKnown := by
  induction d with
  | disjunction first rest ihf ihr => exact ihr _ ihf
  | conjunction first rest ihf ihr => exact ihr _ ihf
  | noDisjunct | noConjunct => exact fun l hl => hl
  | disjunct spelling next rest ihn ihr => exact fun l hl => ihr _ (known_or.mpr ⟨hl, ihn⟩)
  | conjunct spelling next rest ihn ihr => exact fun l hl => ihr _ (known_and.mpr ⟨hl, ihn⟩)
  | juxtaposed next rest ihn ihr => exact fun l hl => ihr _ (known_and.mpr ⟨hl, ihn⟩)
  | negation spelling x ih => exact known_not.mpr ih
  | primary p ih => exact ih
  | group inner ih => exact ih
  | condition c => exact known_term.mpr c.field_mem

/-- Every query that a text writes has writable fields. -/
lemma known_of_parse {text : String} {q : Query} (h : parse text = .ok q) : Known q := by
  cases htokens : tokenize text with
  | error e => exact absurd h (by simp [parse, htokens])
  | ok tokens =>
      rw [parse_of_tokenize htokens, parseTokens_eq_ok_iff] at h
      obtain ⟨d, -, rfl⟩ := h
      exact d.meansKnown

/-! ### Rendering and reading back -/

/-- **Rendering and reading back is the identity exactly on what can be read.** For a query, to have
writable fields only, to be read back from its rendering and to be written by some text are the
same. So what was read from any text is read again from its rendering. -/
theorem parse_render_iff (q : Query) :
    (Known q ↔ parse q.render = .ok q) ∧ (Known q ↔ ∃ text, parse text = .ok q) ∧
      ∀ text, parse text = .ok q → parse q.render = .ok q := by
  have himage : (∃ text, parse text = .ok q) → Known q := by
    rintro ⟨text, h⟩
    exact known_of_parse h
  refine ⟨⟨parse_render_of_known, fun h => himage ⟨_, h⟩⟩,
    ⟨fun h => ⟨_, parse_render_of_known h⟩, himage⟩, fun text h => ?_⟩
  exact parse_render_of_known (known_of_parse h)

/-- A query whose values look like syntax, written in another way than its rendering. -/
theorem parse_render_of_values_like_syntax :
    Known (.and (.not (.term ⟨"subCategory", "a\" OR \\"⟩)) (.term ⟨"text", ""⟩)) ∧
      parse "not SUBCATEGORY:\"a\\\" OR \\\\\" \"\""
        = .ok (.and (.not (.term ⟨"subCategory", "a\" OR \\"⟩)) (.term ⟨"text", ""⟩)) ∧
      parse (render (.and (.not (.term ⟨"subCategory", "a\" OR \\"⟩)) (.term ⟨"text", ""⟩)))
        = .ok (.and (.not (.term ⟨"subCategory", "a\" OR \\"⟩)) (.term ⟨"text", ""⟩)) := by
  have hparse : parse "not SUBCATEGORY:\"a\\\" OR \\\\\" \"\""
      = .ok (.and (.not (.term ⟨"subCategory", "a\" OR \\"⟩)) (.term ⟨"text", ""⟩)) := rfl
  exact ⟨(parse_render_iff _).2.1.mpr ⟨_, hparse⟩, hparse, (parse_render_iff _).2.2 _ hparse⟩

end EntityGraph.Query
