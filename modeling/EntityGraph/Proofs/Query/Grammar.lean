import EntityGraph.Query.Parse
import Mathlib.Tactic.Common
/-!
The grammar of queries, apart from the parser: derivations, the lexemes they yield and the queries
they mean.

* `Derivation`: the derivations of each symbol. Repetitions are lists (`disjuncts`, `conjuncts`), so
  the grammar itself says nothing about association; `Derivation.meaning` folds them to the left.
* `Derivation.yield`: the lexemes of a derivation.
* `Derivation.determined`: a derivation is determined by any text that begins with its yield and
  goes on with something that cannot belong to it. Hence `Derivation.yield_injective`: the grammar
  is unambiguous.
-/

namespace EntityGraph.Query

/-- The symbols of the grammar with recursive productions. -/
inductive Symbol where
  | disjunction
  /-- Any number of operands of an `or`, each after its keyword. -/
  | disjuncts
  | conjunction
  /-- Any number of operands of an `and`, with or without the keyword. -/
  | conjuncts
  | operand
  | primary
  deriving DecidableEq

/-- A value: a word or a text in quotes. -/
inductive Literal where
  | word (s : String)
  | quoted (s : String)

/-- The text of a value. -/
def Literal.text : Literal → String
  | word s | quoted s => s

/-- The lexeme of a value. -/
def Literal.lexeme : Literal → Lexeme
  | word s => .word s
  | quoted s => .quoted s

lemma Literal.lexeme_injective : Function.Injective Literal.lexeme := by
  intro v v' h
  cases v <;> cases v' <;> simp_all [lexeme]

/-- A name names a field if the two agree in lower case. -/
def Names (name field : String) : Prop :=
  field ∈ filterFields ∧ Text.lowerAscii field = Text.lowerAscii name

/-- A name names at most one field. -/
lemma Names.unique {name field field' : String} (h : Names name field) (h' : Names name field') :
    field = field' := by
  have hlow : Text.lowerAscii field = Text.lowerAscii field' := h.2.trans h'.2.symm
  have hinj : ∀ f ∈ filterFields, ∀ f' ∈ filterFields,
      Text.lowerAscii f = Text.lowerAscii f' → f = f' := by decide
  exact hinj field h.1 field' h'.1 hlow

/-- A condition as it is written: a value, or the name of a field, a colon and a value. -/
inductive Condition where
  | bare (v : Literal)
  | filter (name field : String) (h : Names name field) (v : Literal)

/-- The lexemes of a condition. -/
def Condition.yield : Condition → List Lexeme
  | bare v => [v.lexeme]
  | filter name _ _ v => [.word name, .colon, v.lexeme]

/-- A condition does not begin with a parenthesis. -/
lemma Condition.yield_append_ne (c : Condition) (w r : List Lexeme) :
    c.yield ++ r ≠ .leftParen :: w := by
  rcases c with ⟨_ | _⟩ | ⟨_, _, _, _⟩ <;> simp [yield, Literal.lexeme]

/-- The term that a condition writes. -/
def Condition.term : Condition → Term
  | bare v => ⟨textField, v.text⟩
  | filter _ field _ v => ⟨field, v.text⟩

/-- The derivations of a symbol. -/
inductive Derivation : Symbol → Type where
  | disjunction (first : Derivation .conjunction) (rest : Derivation .disjuncts) :
      Derivation .disjunction
  | noDisjunct : Derivation .disjuncts
  | disjunct (spelling : String) (next : Derivation .conjunction)
      (rest : Derivation .disjuncts) : Derivation .disjuncts
  | conjunction (first : Derivation .operand) (rest : Derivation .conjuncts) :
      Derivation .conjunction
  | noConjunct : Derivation .conjuncts
  | conjunct (spelling : String) (next : Derivation .operand)
      (rest : Derivation .conjuncts) : Derivation .conjuncts
  | juxtaposed (next : Derivation .operand) (rest : Derivation .conjuncts) :
      Derivation .conjuncts
  | negation (spelling : String) (x : Derivation .operand) : Derivation .operand
  | primary (p : Derivation .primary) : Derivation .operand
  | group (inner : Derivation .disjunction) : Derivation .primary
  | condition (c : Condition) : Derivation .primary

namespace Derivation

/-- The lexemes of a derivation. -/
def yield : {s : Symbol} → Derivation s → List Lexeme
  | _, disjunction first rest => first.yield ++ rest.yield
  | _, noDisjunct => []
  | _, disjunct spelling next rest => .or spelling :: (next.yield ++ rest.yield)
  | _, conjunction first rest => first.yield ++ rest.yield
  | _, noConjunct => []
  | _, conjunct spelling next rest => .and spelling :: (next.yield ++ rest.yield)
  | _, juxtaposed next rest => next.yield ++ rest.yield
  | _, negation spelling x => .not spelling :: x.yield
  | _, primary p => p.yield
  | _, group inner => .leftParen :: (inner.yield ++ [.rightParen])
  | _, condition c => c.yield

/-- What the derivations of a symbol mean: a query, or for a repetition what becomes of the query to
its left. -/
abbrev Meaning : Symbol → Type
  | .disjunction | .conjunction | .operand | .primary => Query
  | .disjuncts | .conjuncts => Query → Query

/-- The meaning of a derivation. Both binary operators associate to the left. -/
def meaning : {s : Symbol} → Derivation s → Meaning s
  | _, disjunction first rest => rest.meaning first.meaning
  | _, noDisjunct => fun l => l
  | _, disjunct _ next rest => fun l => rest.meaning (.or l next.meaning)
  | _, conjunction first rest => rest.meaning first.meaning
  | _, noConjunct => fun l => l
  | _, conjunct _ next rest => fun l => rest.meaning (.and l next.meaning)
  | _, juxtaposed next rest => fun l => rest.meaning (.and l next.meaning)
  | _, negation _ x => .not x.meaning
  | _, primary p => p.meaning
  | _, group inner => inner.meaning
  | _, condition c => .term c.term

/-! ### Unambiguity -/

/-- The lexemes that begin an operand. -/
def opens : Lexeme → Bool
  | .not _ | .leftParen | .word _ | .quoted _ => true
  | _ => false

/-- The lexemes that continue what a symbol derives: a colon makes a value a field name, and the
repetitions go on with their operators and operands. -/
def continues : Symbol → Lexeme → Bool
  | _, .colon => true
  | .disjunction, .or _ | .disjuncts, .or _ => true
  | .operand, _ | .primary, _ => false
  | _, .and _ => true
  | _, l => opens l

/-- A list of lexemes that does not begin with one that continues what a symbol derives. -/
def Stops (s : Symbol) (w : List Lexeme) : Prop := ∀ l ∈ w.head?, continues s l = false

lemma stops_cons {s : Symbol} {l : Lexeme} {w : List Lexeme} :
    Stops s (l :: w) ↔ continues s l = false := by
  simp [Stops]

lemma stops_disjunction {w : List Lexeme} : Stops .disjunction w ↔ Stops .disjuncts w := by
  have h : ∀ l, continues .disjunction l = continues .disjuncts l := fun l => by cases l <;> rfl
  simp only [Stops, h]

lemma stops_conjunction {w : List Lexeme} : Stops .conjunction w ↔ Stops .conjuncts w := by
  have h : ∀ l, continues .conjunction l = continues .conjuncts l := fun l => by cases l <;> rfl
  simp only [Stops, h]

lemma stops_primary {w : List Lexeme} : Stops .primary w ↔ Stops .operand w := by
  have h : ∀ l, continues .primary l = continues .operand l := fun l => by cases l <;> rfl
  simp only [Stops, h]

/-- Everything but the two repetitions begins with a lexeme that begins an operand. -/
lemma exists_yield_eq_cons {s : Symbol} (d : Derivation s) :
    s ≠ .disjuncts → s ≠ .conjuncts → ∃ l w, d.yield = l :: w ∧ opens l = true := by
  induction d with
  | disjunction first rest ih _ =>
      intro _ _
      obtain ⟨l, w, h, hl⟩ := ih (by simp) (by simp)
      exact ⟨l, w ++ rest.yield, by rw [yield, h, List.cons_append], hl⟩
  | conjunction first rest ih _ =>
      intro _ _
      obtain ⟨l, w, h, hl⟩ := ih (by simp) (by simp)
      exact ⟨l, w ++ rest.yield, by rw [yield, h, List.cons_append], hl⟩
  | negation spelling x _ => exact fun _ _ => ⟨_, _, rfl, rfl⟩
  | primary p ih => exact fun _ _ => ih (by simp) (by simp)
  | group inner _ => exact fun _ _ => ⟨_, _, rfl, rfl⟩
  | condition c =>
      intro _ _
      rcases c with ⟨_ | _⟩ | ⟨_, _, _, _⟩ <;> exact ⟨_, _, rfl, rfl⟩
  | noDisjunct | disjunct _ _ _ _ _ => exact fun h _ => absurd rfl h
  | noConjunct | conjunct _ _ _ _ _ | juxtaposed _ _ _ _ => exact fun _ h => absurd rfl h

lemma exists_operand_eq_cons (d : Derivation .operand) :
    ∃ l w, d.yield = l :: w ∧ opens l = true :=
  d.exists_yield_eq_cons (by simp) (by simp)

/-- A conjunct without its keyword does not begin with the keyword. -/
lemma operand_append_ne_and (d : Derivation .operand) (rest : Derivation .conjuncts)
    (spelling : String) (w r : List Lexeme) :
    .and spelling :: w ≠ (juxtaposed d rest).yield ++ r := by
  obtain ⟨l, v, hv, hl⟩ := d.exists_operand_eq_cons
  rw [yield, hv]
  intro h
  rw [← (List.cons.inj h).1] at hl
  exact absurd hl (by simp [opens])

/-- A primary phrase does not begin with a negation. -/
lemma primary_yield_ne (p : Derivation .primary) (spelling : String) (w r : List Lexeme) :
    p.yield ++ r ≠ .not spelling :: w := by
  cases p with
  | group inner => simp [yield]
  | condition c =>
      rcases c with ⟨_ | _⟩ | ⟨_, _, _, _⟩ <;> simp [yield, Condition.yield, Literal.lexeme]

/-- What follows a conjunction inside a disjunction cannot belong to the conjunction. -/
lemma stops_disjuncts (d : Derivation .disjuncts) {r : List Lexeme} (h : Stops .disjuncts r) :
    Stops .conjunction (d.yield ++ r) := by
  cases d with
  | noDisjunct =>
      intro l hl
      have := h l hl
      cases l <;> simp_all [continues]
  | disjunct spelling next rest => exact stops_cons.mpr rfl

/-- What follows an operand inside a conjunction cannot belong to the operand. -/
lemma stops_conjuncts (d : Derivation .conjuncts) {r : List Lexeme} (h : Stops .conjuncts r) :
    Stops .operand (d.yield ++ r) := by
  cases d with
  | noConjunct =>
      intro l hl
      have := h l hl
      cases l <;> simp_all [continues]
  | conjunct spelling next rest => exact stops_cons.mpr rfl
  | juxtaposed next rest =>
      obtain ⟨l, w, hw, hl⟩ := next.exists_operand_eq_cons
      rw [yield, hw]
      refine stops_cons.mpr ?_
      cases l <;> simp_all [opens, continues]

end Derivation

/-- A condition is determined by a text that begins with it and does not go on with a colon. -/
lemma Condition.yield_append_inj {c c' : Condition} {r u : List Lexeme}
    (hr : Derivation.Stops .primary r) (hu : Derivation.Stops .primary u)
    (h : c.yield ++ r = c'.yield ++ u) : c = c' ∧ r = u := by
  cases c with
  | bare v =>
      cases c' with
      | bare v' =>
          obtain ⟨hv, rfl⟩ := List.cons.inj h
          exact ⟨by rw [Literal.lexeme_injective hv], rfl⟩
      | filter name' field' h' v' =>
          rw [show r = .colon :: v'.lexeme :: u from (List.cons.inj h).2] at hr
          exact absurd (Derivation.stops_cons.mp hr) (by simp [Derivation.continues])
  | filter name field hn v =>
      cases c' with
      | bare v' =>
          rw [show u = .colon :: v.lexeme :: r from (List.cons.inj h).2.symm] at hu
          exact absurd (Derivation.stops_cons.mp hu) (by simp [Derivation.continues])
      | filter name' field' hn' v' =>
          simp only [Condition.yield, List.cons_append, List.nil_append, List.cons.injEq,
            Lexeme.word.injEq, true_and] at h
          obtain ⟨rfl, hv, rfl⟩ := h
          obtain rfl := hn.unique hn'
          exact ⟨by rw [Literal.lexeme_injective hv], rfl⟩

namespace Derivation

/-- A conjunct without its keyword cannot be split off a text that does not continue a
conjunction. -/
lemma not_stops_juxtaposed {next : Derivation .operand} {rest : Derivation .conjuncts}
    {r u : List Lexeme} (h : r = (juxtaposed next rest).yield ++ u) : ¬ Stops .conjuncts r := by
  obtain ⟨l, w, hw, hl⟩ := next.exists_operand_eq_cons
  rw [h, yield, hw]
  intro hr
  have hl' := stops_cons.mp hr
  cases l <;> simp_all [opens, continues]

/-- A derivation is determined by every text that begins with its yield and goes on with something
that cannot belong to it. -/
def Determined {s : Symbol} (d : Derivation s) : Prop :=
  ∀ (e : Derivation s) (r u : List Lexeme), Stops s r → Stops s u →
    d.yield ++ r = e.yield ++ u → d = e ∧ r = u

/-- Two derivations one after the other are determined if each of them is and the second cannot be
taken for a part of the first. -/
lemma Determined.append {s t : Symbol} {d e : Derivation s} {rest rest' : Derivation t}
    {r u : List Lexeme}
    (hst : ∀ (x : Derivation t) {w : List Lexeme}, Stops t w → Stops s (x.yield ++ w))
    (hd : d.Determined) (hrest : rest.Determined) (hr : Stops t r) (hu : Stops t u)
    (h : d.yield ++ (rest.yield ++ r) = e.yield ++ (rest'.yield ++ u)) :
    d = e ∧ rest = rest' ∧ r = u := by
  obtain ⟨hde, hrest'⟩ := hd e _ _ (hst rest hr) (hst rest' hu) h
  exact ⟨hde, hrest rest' r u hr hu hrest'⟩

/-- **Unique reading**: every derivation is determined by the texts that begin with its yield. -/
theorem determined {s : Symbol} (d : Derivation s) : d.Determined := by
  induction d with
  | disjunction first rest ihf ihr =>
      intro e r u hr hu h
      cases e with
      | disjunction first' rest' =>
          rw [stops_disjunction] at hr hu
          simp only [yield, List.append_assoc] at h
          obtain ⟨rfl, rfl, rfl⟩ := ihf.append stops_disjuncts ihr hr hu h
          exact ⟨rfl, rfl⟩
  | noDisjunct =>
      intro e r u hr hu h
      cases e with
      | noDisjunct => exact ⟨rfl, h⟩
      | disjunct spelling' next' rest' =>
          rw [show r = .or spelling' :: (next'.yield ++ rest'.yield ++ u) from h] at hr
          exact absurd (stops_cons.mp hr) (by simp [continues])
  | disjunct spelling next rest ihn ihr =>
      intro e r u hr hu h
      cases e with
      | noDisjunct =>
          rw [show u = .or spelling :: (next.yield ++ rest.yield ++ r) from h.symm] at hu
          exact absurd (stops_cons.mp hu) (by simp [continues])
      | disjunct spelling' next' rest' =>
          simp only [yield, List.cons_append, List.append_assoc, List.cons.injEq,
            Lexeme.or.injEq] at h
          obtain ⟨rfl, rfl, rfl⟩ := ihn.append stops_disjuncts ihr hr hu h.2
          exact ⟨by rw [h.1], rfl⟩
  | conjunction first rest ihf ihr =>
      intro e r u hr hu h
      cases e with
      | conjunction first' rest' =>
          rw [stops_conjunction] at hr hu
          simp only [yield, List.append_assoc] at h
          obtain ⟨rfl, rfl, rfl⟩ := ihf.append stops_conjuncts ihr hr hu h
          exact ⟨rfl, rfl⟩
  | noConjunct =>
      intro e r u hr hu h
      cases e with
      | noConjunct => exact ⟨rfl, h⟩
      | conjunct spelling' next' rest' =>
          rw [show r = .and spelling' :: (next'.yield ++ rest'.yield ++ u) from h] at hr
          exact absurd (stops_cons.mp hr) (by simp [continues])
      | juxtaposed next' rest' => exact absurd hr (not_stops_juxtaposed h)
  | conjunct spelling next rest ihn ihr =>
      intro e r u hr hu h
      cases e with
      | noConjunct =>
          rw [show u = .and spelling :: (next.yield ++ rest.yield ++ r) from h.symm] at hu
          exact absurd (stops_cons.mp hu) (by simp [continues])
      | conjunct spelling' next' rest' =>
          simp only [yield, List.cons_append, List.append_assoc, List.cons.injEq,
            Lexeme.and.injEq] at h
          obtain ⟨rfl, rfl, rfl⟩ := ihn.append stops_conjuncts ihr hr hu h.2
          exact ⟨by rw [h.1], rfl⟩
      | juxtaposed next' rest' => exact absurd h (next'.operand_append_ne_and _ _ _ _)
  | juxtaposed next rest ihn ihr =>
      intro e r u hr hu h
      cases e with
      | noConjunct => exact absurd hu (not_stops_juxtaposed h.symm)
      | conjunct spelling' next' rest' =>
          exact absurd h.symm (next.operand_append_ne_and _ _ _ _)
      | juxtaposed next' rest' =>
          simp only [yield, List.append_assoc] at h
          obtain ⟨rfl, rfl, rfl⟩ := ihn.append stops_conjuncts ihr hr hu h
          exact ⟨rfl, rfl⟩
  | negation spelling x ih =>
      intro e r u hr hu h
      cases e with
      | negation spelling' x' =>
          simp only [yield, List.cons_append, List.cons.injEq, Lexeme.not.injEq] at h
          obtain ⟨rfl, rfl⟩ := ih x' r u hr hu h.2
          exact ⟨by rw [h.1], rfl⟩
      | primary p' => exact absurd h.symm (p'.primary_yield_ne _ _ _)
  | primary p ih =>
      intro e r u hr hu h
      cases e with
      | negation spelling' x' => exact absurd h (p.primary_yield_ne _ _ _)
      | primary p' =>
          obtain ⟨rfl, rfl⟩ := ih p' r u (stops_primary.mpr hr) (stops_primary.mpr hu) h
          exact ⟨rfl, rfl⟩
  | group inner ih =>
      intro e r u hr hu h
      cases e with
      | group inner' =>
          simp only [yield, List.cons_append, List.append_assoc, List.cons.injEq, true_and,
            List.nil_append] at h
          obtain ⟨rfl, h'⟩ := ih inner' _ _ (stops_cons.mpr rfl) (stops_cons.mpr rfl) h
          exact ⟨rfl, (List.cons.inj h').2⟩
      | condition c' => exact absurd h.symm (c'.yield_append_ne _ _)
  | condition c =>
      intro e r u hr hu h
      cases e with
      | group inner' => exact absurd h (c.yield_append_ne _ _)
      | condition c' =>
          obtain ⟨rfl, rfl⟩ := c.yield_append_inj hr hu h
          exact ⟨rfl, rfl⟩

/-- The grammar is unambiguous: lexemes have at most one derivation. -/
theorem yield_injective {s : Symbol} : Function.Injective (yield (s := s)) := by
  intro d e h
  exact (d.determined e [] [] (by simp [Stops]) (by simp [Stops]) (by rw [h])).1

end Derivation

end EntityGraph.Query
