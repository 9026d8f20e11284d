import EntityGraph.Proofs.Query.Grammar
import EntityGraph.Traversal.Match
/-!
The parser accepts exactly the texts that the grammar derives, with the query that the derivation
means.

* `Parse.completed?`: the operand that is complete in a state. A state with one takes every token
  but a colon in the same way, whether it has just read a bare word or not (`step_of_completed`).
* `Derivation.readFrom`: the parser reads the yield of a derivation and then holds its meaning.
* `Parse.OperandFirst`, `Parse.RestFirst`: conversely, what is accepted where an operand has to
  follow begins with a derived operand, and what is accepted after a complete operand with derived
  repetitions.
* `parseTokens_eq_ok_iff`: tokens write a query exactly when their lexemes have a derivation that
  means it.
-/

namespace EntityGraph.Query

/-- A name is looked up to the field that it names. -/
lemma fieldNamed?_eq_some_iff {name field : String} :
    fieldNamed? name = some field ↔ Names name field := by
  have hnames : ∀ {f}, fieldNamed? name = some f → Names name f := fun {f} h =>
    ⟨List.mem_of_find?_eq_some h, by simpa using List.find?_some h⟩
  refine ⟨hnames, fun h => ?_⟩
  cases hn : fieldNamed? name with
  | none =>
      have hne := List.find?_eq_none.mp hn field h.1
      exact absurd h.2 (by simpa using hne)
  | some field' => rw [(hnames hn).unique h]

/-- Negations in front of a negation are one more. -/
lemma Pending.negate_not (n : Nat) (q : Query) : negate n (.not q) = .not (negate n q) := by
  induction n with
  | zero => rfl
  | succ n ih => rw [negate, ih, negate]

/-- A negated operand completes what waits behind one more negation. -/
lemma Completed.of_not (pending : Pending) (outer : List Pending) (q : Query) :
    of { pending with negations := pending.negations + 1 } outer q = of pending outer (.not q) := by
  simp only [of, Pending.negate, Pending.negate_not]

namespace Parse

/-- The operand that is complete in a state. A bare word is one unless a colon follows it. -/
def completed? : Parse → Option Completed
  | word s _ pending outer => some (.of pending outer (.term ⟨textField, s⟩))
  | complete c => some c
  | operand _ _ | value _ _ _ => none

variable {s s' : Parse} {c : Completed} {t : Token} {ts us : List Token}

/-- After a complete operand, only a colon can tell a bare word from another operand. -/
lemma step_of_completed (h : s.completed? = some c) (ht : t.lexeme ≠ .colon) :
    s.step t = stepComplete c t := by
  cases s with
  | operand pending outer => exact absurd h (by simp [completed?])
  | value field pending outer => exact absurd h (by simp [completed?])
  | complete c' =>
      obtain rfl : c' = c := by simpa [completed?] using h
      rfl
  | word w n pending outer =>
      obtain rfl := Option.some.inj h
      simp only [step]

/-- At the end of the text, a bare word is an operand. -/
lemma finish_of_completed (h : s.completed? = some c) (stop : Nat) :
    s.finish stop = finishComplete stop c := by
  cases s with
  | operand pending outer => exact absurd h (by simp [completed?])
  | value field pending outer => exact absurd h (by simp [completed?])
  | complete c' =>
      obtain rfl : c' = c := by simpa [completed?] using h
      rfl
  | word w n pending outer =>
      obtain rfl := Option.some.inj h
      rfl

/-- A token that begins an operand continues a conjunction. -/
lemma stepComplete_of_opens (h : Derivation.opens t.lexeme = true) :
    stepComplete c t = (operand ⟨c.disjunct, some c.conjunction, 0⟩ c.outer).step t := by
  unfold stepComplete step
  cases hl : t.lexeme <;> simp_all [Derivation.opens]

lemma run_cons : run s (t :: ts) = (s.step t).bind fun s' => run s' ts := by
  rw [run, List.foldlM_cons]
  rfl

lemma run_append : run s (ts ++ us) = (run s ts).bind fun s' => run s' us := by
  rw [run, List.foldlM_append]
  rfl

/-- The state after some tokens holds a complete operand. -/
def Reaches (s : Parse) (ts : List Token) (c : Completed) : Prop :=
  ∃ s', run s ts = .ok s' ∧ s'.completed? = some c

lemma Reaches.cons (h : s.step t = .ok s') (h' : s'.Reaches ts c) : s.Reaches (t :: ts) c := by
  obtain ⟨s'', hrun, hc⟩ := h'
  refine ⟨s'', ?_, hc⟩
  rw [run_cons, h]
  exact hrun

lemma Reaches.append (h : run s ts = .ok s') (h' : s'.Reaches us c) : s.Reaches (ts ++ us) c := by
  obtain ⟨s'', hrun, hc⟩ := h'
  refine ⟨s'', ?_, hc⟩
  rw [run_append, h]
  exact hrun

/-- After a complete operand, an operand without a keyword is read as after `and`. -/
lemma run_cons_of_opens (hs : s.completed? = some c) (ht : Derivation.opens t.lexeme = true) :
    run s (t :: ts) = run (operand ⟨c.disjunct, some c.conjunction, 0⟩ c.outer) (t :: ts) := by
  have hcolon : t.lexeme ≠ .colon := by
    intro h
    rw [h] at ht
    exact absurd ht (by decide)
  rw [run_cons, step_of_completed hs hcolon, stepComplete_of_opens ht, run_cons]

end Parse

/-! ### What is derived is read -/

open Parse in
/-- The parser reads tokens as a derivation means them: an operand wherever one has to follow, a
conjunction where none is pending, a disjunction after a parenthesis has been opened, and a
repetition after a complete operand. -/
def Derivation.ReadFrom (ts : List Token) : {s : Symbol} → Derivation s → Prop
  | .operand, d | .primary, d =>
    ∀ pending outer, (operand pending outer).Reaches ts (.of pending outer d.meaning)
  | .conjunction, d =>
    ∀ disjunct outer, (operand ⟨disjunct, none, 0⟩ outer).Reaches ts ⟨disjunct, d.meaning, outer⟩
  | .conjuncts, d =>
    ∀ (s : Parse) (c : Completed), s.completed? = some c →
      s.Reaches ts { c with conjunction := d.meaning c.conjunction }
  | .disjunction, d =>
    ∀ outer, ∃ c, (operand .nothing outer).Reaches ts c ∧ c.outer = outer ∧ c.whole = d.meaning
  | .disjuncts, d =>
    ∀ (s : Parse) (c : Completed), s.completed? = some c →
      ∃ c', s.Reaches ts c' ∧ c'.outer = c.outer ∧ c'.whole = d.meaning c.whole

namespace Derivation

/-- The tokens of an operand begin with one that opens it. -/
lemma opens_of_map_eq {d : Derivation .operand} {ts : List Token}
    (h : ts.map Token.lexeme = d.yield) :
    ∃ t us, ts = t :: us ∧ opens t.lexeme = true := by
  obtain ⟨l, w, hw, hl⟩ := d.exists_operand_eq_cons
  rw [hw] at h
  obtain ⟨t, us, rfl, rfl, -⟩ := List.map_eq_cons_iff.mp h
  exact ⟨t, us, rfl, hl⟩

/-- The parser reads the tokens of a condition. -/
lemma condition_readFrom (c : Condition) {ts : List Token}
    (h : ts.map Token.lexeme = c.yield) : ReadFrom ts (condition c) := by
  intro pending outer
  cases c with
  | bare v =>
      obtain ⟨t, us, rfl, ht, hus⟩ := List.map_eq_cons_iff.mp h
      obtain rfl := List.map_eq_nil_iff.mp hus
      cases v with
      | word s =>
          refine ⟨.word s t.position pending outer, ?_, rfl⟩
          rw [Parse.run_cons, Parse.step, Parse.stepOperand, ht]
          rfl
      | quoted s =>
          refine ⟨.complete (.of pending outer (.term ⟨textField, s⟩)), ?_, rfl⟩
          rw [Parse.run_cons, Parse.step, Parse.stepOperand, ht]
          rfl
  | filter name field hn v =>
      obtain ⟨t₁, us₁, rfl, ht₁, h₁⟩ := List.map_eq_cons_iff.mp h
      obtain ⟨t₂, us₂, rfl, ht₂, h₂⟩ := List.map_eq_cons_iff.mp h₁
      obtain ⟨t₃, us₃, rfl, ht₃, h₃⟩ := List.map_eq_cons_iff.mp h₂
      obtain rfl := List.map_eq_nil_iff.mp h₃
      have hword : (Parse.operand pending outer).step t₁
          = .ok (.word name t₁.position pending outer) := by
        rw [Parse.step, Parse.stepOperand, ht₁]
      have hcolon : (Parse.word name t₁.position pending outer).step t₂
          = .ok (.value field pending outer) := by
        rw [Parse.step, ht₂, fieldNamed?_eq_some_iff.mpr hn]
      have hvalue : (Parse.value field pending outer).step t₃
          = .ok (.complete (.of pending outer (.term ⟨field, v.text⟩))) := by
        rw [Parse.step, ht₃]
        cases v <;> rfl
      exact .cons hword (.cons hcolon (.cons hvalue ⟨_, rfl, rfl⟩))

/-- The parser reads the tokens of every derivation. -/
theorem readFrom {s : Symbol} (d : Derivation s) :
    ∀ ts : List Token, ts.map Token.lexeme = d.yield → ReadFrom ts d := by
  induction d with
  | disjunction first rest ihf ihr =>
      intro ts h outer
      obtain ⟨us, ws, rfl, hus, hws⟩ := List.map_eq_append_iff.mp h
      obtain ⟨s, hrun, hs⟩ := ihf us hus none outer
      obtain ⟨c, hc, houter, hwhole⟩ := ihr ws hws s _ hs
      exact ⟨c, .append hrun hc, houter, hwhole⟩
  | noDisjunct =>
      intro ts h s c hc
      obtain rfl := List.map_eq_nil_iff.mp h
      exact ⟨c, ⟨s, rfl, hc⟩, rfl, rfl⟩
  | disjunct spelling next rest ihn ihr =>
      intro ts h s c hc
      obtain ⟨t, us, rfl, ht, hus⟩ := List.map_eq_cons_iff.mp h
      obtain ⟨vs, ws, rfl, hvs, hws⟩ := List.map_eq_append_iff.mp hus
      have hstep : s.step t = .ok (.operand ⟨some c.whole, none, 0⟩ c.outer) := by
        rw [Parse.step_of_completed hc (by rw [ht]; simp), Parse.stepComplete, ht]
      obtain ⟨s', hrun, hs'⟩ := ihn vs hvs (some c.whole) c.outer
      obtain ⟨c', hc', houter, hwhole⟩ := ihr ws hws s' _ hs'
      exact ⟨c', .cons hstep (.append hrun hc'), houter, hwhole⟩
  | conjunction first rest ihf ihr =>
      intro ts h disjunct outer
      obtain ⟨us, ws, rfl, hus, hws⟩ := List.map_eq_append_iff.mp h
      obtain ⟨s, hrun, hs⟩ := ihf us hus ⟨disjunct, none, 0⟩ outer
      exact .append hrun (ihr ws hws s _ hs)
  | noConjunct =>
      intro ts h s c hc
      obtain rfl := List.map_eq_nil_iff.mp h
      exact ⟨s, rfl, hc⟩
  | conjunct spelling next rest ihn ihr =>
      intro ts h s c hc
      obtain ⟨t, us, rfl, ht, hus⟩ := List.map_eq_cons_iff.mp h
      obtain ⟨vs, ws, rfl, hvs, hws⟩ := List.map_eq_append_iff.mp hus
      have hstep : s.step t = .ok (.operand ⟨c.disjunct, some c.conjunction, 0⟩ c.outer) := by
        rw [Parse.step_of_completed hc (by rw [ht]; simp), Parse.stepComplete, ht]
      obtain ⟨s', hrun, hs'⟩ := ihn vs hvs ⟨c.disjunct, some c.conjunction, 0⟩ c.outer
      exact .cons hstep (.append hrun (ihr ws hws s' _ hs'))
  | juxtaposed next rest ihn ihr =>
      intro ts h s c hc
      obtain ⟨vs, ws, rfl, hvs, hws⟩ := List.map_eq_append_iff.mp h
      obtain ⟨s', hrun, hs'⟩ := ihn vs hvs ⟨c.disjunct, some c.conjunction, 0⟩ c.outer
      obtain ⟨t, us, rfl, ht⟩ := opens_of_map_eq hvs
      rw [← Parse.run_cons_of_opens hc ht] at hrun
      exact .append hrun (ihr ws hws s' _ hs')
  | negation spelling x ih =>
      intro ts h pending outer
      obtain ⟨t, us, rfl, ht, hus⟩ := List.map_eq_cons_iff.mp h
      have hstep : (Parse.operand pending outer).step t
          = .ok (.operand { pending with negations := pending.negations + 1 } outer) := by
        rw [Parse.step, Parse.stepOperand, ht]
      have hx := ih us hus { pending with negations := pending.negations + 1 } outer
      rw [Completed.of_not] at hx
      exact .cons hstep hx
  | primary p ih => exact fun ts h => ih ts h
  | group inner ih =>
      intro ts h pending outer
      obtain ⟨t, us, rfl, ht, hus⟩ := List.map_eq_cons_iff.mp h
      obtain ⟨vs, ws, rfl, hvs, hws⟩ := List.map_eq_append_iff.mp hus
      obtain ⟨t', ws', rfl, ht', hws'⟩ := List.map_eq_cons_iff.mp hws
      obtain rfl := List.map_eq_nil_iff.mp hws'
      have hopen : (Parse.operand pending outer).step t
          = .ok (.operand .nothing (pending :: outer)) := by
        rw [Parse.step, Parse.stepOperand, ht]
      obtain ⟨c, ⟨s, hrun, hs⟩, houter, hwhole⟩ := ih vs hvs (pending :: outer)
      have hclose : s.step t' = .ok (.complete (.of pending outer inner.meaning)) := by
        rw [Parse.step_of_completed hs (by rw [ht']; simp), Parse.stepComplete, ht', houter]
        simp only [hwhole]
      exact .cons hopen (.append hrun (.cons hclose ⟨_, rfl, rfl⟩))
  | condition c => exact fun ts h => condition_readFrom c h

end Derivation

/-! ### What is accepted is derived -/

namespace Parse

variable {s : Parse} {c : Completed} {t : Token} {ts : List Token} {stop : Nat} {q : Query}

/-- What the parser makes of the rest of a text. -/
def result (stop : Nat) (s : Parse) (ts : List Token) : Except ParseError Query :=
  (run s ts).bind fun s' => s'.finish stop

@[simp] lemma result_nil : s.result stop [] = s.finish stop := rfl

lemma result_cons : s.result stop (t :: ts) = (s.step t).bind fun s' => s'.result stop ts := by
  rw [result, run_cons]
  cases s.step t <;> rfl

/-- A bare word that is not followed by a colon is a complete operand. -/
lemma result_of_completed (hs : s.completed? = some c) (hts : ∀ t ∈ ts.head?, t.lexeme ≠ .colon) :
    s.result stop ts = (complete c).result stop ts := by
  cases ts with
  | nil => exact finish_of_completed hs stop
  | cons t ts =>
      rw [result_cons, result_cons, step_of_completed hs (hts t rfl)]
      rfl

/-- The rest of an accepted text behind everything inside the current parentheses, which is `w`:
nothing at the outermost level, and a closing parenthesis elsewhere. -/
def Closes (stop : Nat) (q w : Query) : List Pending → List Token → Prop
  | [], ts => ts = [] ∧ q = w
  | pending :: outer, ts => ∃ t us, ts = t :: us ∧ t.lexeme = .rightParen ∧
      (complete (.of pending outer w)).result stop us = .ok q

/-- Tokens that are accepted where an operand has to follow begin with a derived operand. -/
def OperandFirst (stop : Nat) (q : Query) (ts : List Token) : Prop :=
  ∀ pending outer, (operand pending outer).result stop ts = .ok q →
    ∃ (d : Derivation .operand) (us ws : List Token), ts = us ++ ws ∧
      us.map Token.lexeme = d.yield ∧
      (complete (.of pending outer d.meaning)).result stop ws = .ok q

/-- Tokens that are accepted after a complete operand begin with derived repetitions, and then the
current parentheses are closed. -/
def RestFirst (stop : Nat) (q : Query) (ts : List Token) : Prop :=
  ∀ disjunct conjunction outer, (complete ⟨disjunct, conjunction, outer⟩).result stop ts = .ok q →
    ∃ (d : Derivation .conjuncts) (e : Derivation .disjuncts) (us ws : List Token),
      ts = us ++ ws ∧ us.map Token.lexeme = d.yield ++ e.yield ∧
      Closes stop q (e.meaning (Pending.disjoin disjunct (d.meaning conjunction))) outer ws

/-- What is accepted after a field name and its colon begins with a value. -/
lemma exists_value_of_result {field : String} {pending : Pending} {outer : List Pending}
    (h : (value field pending outer).result stop ts = .ok q) :
    ∃ (v : Literal) (t : Token) (us : List Token), ts = t :: us ∧ t.lexeme = v.lexeme ∧
      (complete (.of pending outer (.term ⟨field, v.text⟩))).result stop us = .ok q := by
  cases ts with
  | nil => exact absurd h (by simp [finish])
  | cons t us =>
      rw [result_cons, step] at h
      cases ht : t.lexeme with
      | word s =>
          rw [ht] at h
          exact ⟨.word s, t, us, rfl, ht, h⟩
      | quoted s =>
          rw [ht] at h
          exact ⟨.quoted s, t, us, rfl, ht, h⟩
      | leftParen | rightParen | colon | and _ | or _ | not _ =>
          rw [ht] at h
          exact absurd h (by simp [Except.bind])

/-- What is accepted after a bare word is accepted after a complete operand, or the word names a
field and its colon follows. -/
lemma word_result_cases {w : String} {n : Nat} {pending : Pending} {outer : List Pending}
    (h : (word w n pending outer).result stop ts = .ok q) :
    (complete (.of pending outer (.term ⟨textField, w⟩))).result stop ts = .ok q ∨
      ∃ (field : String) (t : Token) (us : List Token), Names w field ∧ ts = t :: us ∧
        t.lexeme = .colon ∧ (value field pending outer).result stop us = .ok q := by
  by_cases hts : ∀ t ∈ ts.head?, t.lexeme ≠ .colon
  · rw [result_of_completed rfl hts] at h
    exact .inl h
  · push Not at hts
    obtain ⟨t, ht, hcolon⟩ := hts
    obtain ⟨us, rfl⟩ : ∃ us, ts = t :: us := by
      cases ts with
      | nil => exact absurd ht (by simp)
      | cons t' us => exact ⟨us, by rw [Option.some.inj ht]⟩
    rw [result_cons, step, hcolon] at h
    cases hw : fieldNamed? w with
    | none =>
        simp only [hw] at h
        exact absurd h (by simp [Except.bind])
    | some field =>
        simp only [hw] at h
        exact .inr ⟨field, t, us, fieldNamed?_eq_some_iff.mp hw, rfl, hcolon, h⟩

/-- A word begins a condition. -/
lemma operandFirst_of_word {w : String} {pending : Pending} {outer : List Pending}
    (ht : t.lexeme = .word w) (h : (operand pending outer).result stop (t :: ts) = .ok q) :
    ∃ (d : Derivation .operand) (us ws : List Token), t :: ts = us ++ ws ∧
      us.map Token.lexeme = d.yield ∧
      (complete (.of pending outer d.meaning)).result stop ws = .ok q := by
  rw [result_cons, step, stepOperand, ht] at h
  rcases word_result_cases h with h | ⟨field, t₂, us, hn, rfl, hcolon, h⟩
  · refine ⟨.primary (.condition (.bare (.word w))), [t], ts, rfl, ?_, h⟩
    rw [List.map_singleton, ht]
    rfl
  · obtain ⟨v, t₃, ws, rfl, hv, h⟩ := exists_value_of_result h
    refine ⟨.primary (.condition (.filter w field hn v)), [t, t₂, t₃], ws, rfl, ?_, h⟩
    simp only [List.map_cons, List.map_nil, ht, hcolon, hv]
    rfl

/-- What is accepted where an operand has to follow begins with an operand and repetitions. -/
lemma exists_operand_and_rest {pending : Pending} {outer : List Pending}
    (hfirst : OperandFirst stop q ts)
    (hrest : ∀ us : List Token, us.length < ts.length → RestFirst stop q us)
    (h : (operand pending outer).result stop ts = .ok q) :
    ∃ (d : Derivation .operand) (d' : Derivation .conjuncts) (e : Derivation .disjuncts)
      (us ws : List Token), ts = us ++ ws ∧
      us.map Token.lexeme = d.yield ++ (d'.yield ++ e.yield) ∧
      Closes stop q (e.meaning (Pending.disjoin pending.disjunct (d'.meaning
        (Pending.conjoin pending.conjunct (Pending.negate pending.negations d.meaning)))))
        outer ws := by
  obtain ⟨d, us, ws, rfl, hus, hws⟩ := hfirst _ _ h
  obtain ⟨t, us', rfl, -⟩ := Derivation.opens_of_map_eq hus
  have hlt : ws.length < (t :: us' ++ ws).length := by
    rw [List.length_append, List.length_cons]
    omega
  obtain ⟨d', e, vs, ws', rfl, hvs, hws'⟩ := hrest ws hlt _ _ _ hws
  refine ⟨d, d', e, t :: us' ++ vs, ws', (List.append_assoc _ _ _).symm, ?_, hws'⟩
  rw [List.map_append, hus, hvs]

/-- An operand comes first if the same holds of shorter rests. -/
lemma operandFirst_of_shorter
    (ih : ∀ us : List Token, us.length < ts.length → OperandFirst stop q us ∧ RestFirst stop q us) :
    OperandFirst stop q ts := by
  intro pending outer h
  cases ts with
  | nil => exact absurd h (by simp [finish])
  | cons t ts =>
      cases ht : t.lexeme with
      | word w => exact operandFirst_of_word ht h
      | quoted w =>
          rw [result_cons, step, stepOperand, ht] at h
          exact ⟨.primary (.condition (.bare (.quoted w))), [t], ts, rfl,
            by rw [List.map_singleton, ht]; rfl, h⟩
      | not spelling =>
          rw [result_cons, step, stepOperand, ht] at h
          obtain ⟨d, us, ws, rfl, hus, hws⟩ := (ih ts (by simp)).1 _ _ h
          rw [Completed.of_not] at hws
          refine ⟨.negation spelling d, t :: us, ws, rfl, ?_, hws⟩
          rw [List.map_cons, ht, hus, Derivation.yield]
      | leftParen =>
          rw [result_cons, step, stepOperand, ht] at h
          obtain ⟨d, d', e, us, ws, rfl, hus, t', ts', rfl, ht', hts'⟩ :=
            exists_operand_and_rest (ih ts (by simp)).1
              (fun vs hvs => (ih vs (Nat.lt_succ_of_lt hvs)).2) h
          refine ⟨.primary (.group (.disjunction (.conjunction d d') e)), t :: (us ++ [t']), ts',
            by simp, ?_, hts'⟩
          simp [ht, hus, ht', Derivation.yield]
      | rightParen | colon | and _ | or _ =>
          rw [result_cons, step, stepOperand, ht] at h
          exact absurd h (by simp [Except.bind])

/-- Repetitions come first if the same holds of shorter rests. -/
lemma restFirst_of_shorter
    (ih : ∀ us : List Token, us.length < ts.length → OperandFirst stop q us ∧ RestFirst stop q us) :
    RestFirst stop q ts := by
  intro disjunct conjunction outer h
  cases ts with
  | nil =>
      refine ⟨.noConjunct, .noDisjunct, [], [], rfl, rfl, ?_⟩
      cases outer with
      | nil => exact ⟨rfl, (Except.ok.inj h).symm⟩
      | cons pending outer => exact absurd h (by simp [finish, finishComplete])
  | cons t ts =>
      cases ht : t.lexeme with
      | and spelling =>
          rw [result_cons, step, stepComplete, ht] at h
          obtain ⟨d, d', e, us, ws, rfl, hus, hws⟩ :=
            exists_operand_and_rest (ih ts (by simp)).1
              (fun vs hvs => (ih vs (Nat.lt_succ_of_lt hvs)).2) h
          refine ⟨.conjunct spelling d d', e, t :: us, ws, rfl, ?_, hws⟩
          simp [ht, hus, Derivation.yield]
      | or spelling =>
          rw [result_cons, step, stepComplete, ht] at h
          obtain ⟨d, d', e, us, ws, rfl, hus, hws⟩ :=
            exists_operand_and_rest (ih ts (by simp)).1
              (fun vs hvs => (ih vs (Nat.lt_succ_of_lt hvs)).2) h
          refine ⟨.noConjunct, .disjunct spelling (.conjunction d d') e, t :: us, ws, rfl, ?_, hws⟩
          simp [ht, hus, Derivation.yield]
      | rightParen =>
          rw [result_cons, step, stepComplete, ht] at h
          refine ⟨.noConjunct, .noDisjunct, [], t :: ts, rfl, rfl, ?_⟩
          cases outer with
          | nil => exact absurd h (by simp [Except.bind])
          | cons pending outer => exact ⟨t, ts, rfl, ht, h⟩
      | colon =>
          rw [result_cons, step, stepComplete, ht] at h
          exact absurd h (by simp [Except.bind])
      | leftParen | not _ | word _ | quoted _ =>
          have hopens : Derivation.opens t.lexeme = true := by rw [ht]; rfl
          rw [result_cons, step, stepComplete_of_opens hopens, ← result_cons] at h
          obtain ⟨d, d', e, us, ws, hts, hus, hws⟩ :=
            exists_operand_and_rest (operandFirst_of_shorter ih) (fun vs hvs => (ih vs hvs).2) h
          refine ⟨.juxtaposed d d', e, us, ws, hts, ?_, hws⟩
          rw [hus, Derivation.yield, List.append_assoc]

/-- Accepted rests begin with what the grammar derives. -/
lemma operandFirst_and_restFirst (stop : Nat) (q : Query) :
    ∀ ts : List Token, OperandFirst stop q ts ∧ RestFirst stop q ts := by
  intro ts
  induction hn : ts.length using Nat.strongRecOn generalizing ts with
  | ind n ih =>
      subst hn
      have ih' := fun (us : List Token) (hus : us.length < ts.length) => ih us.length hus us rfl
      exact ⟨operandFirst_of_shorter ih', restFirst_of_shorter ih'⟩

end Parse

/-! ### The accepted texts -/

/-- Tokens are a query exactly when their lexemes have a derivation, and then the derivation means
the query. -/
theorem parseTokens_eq_ok_iff {tokens : List Token} {stop : Nat} {q : Query} :
    parseTokens tokens stop = .ok q ↔
      ∃ d : Derivation .disjunction, d.yield = tokens.map Token.lexeme ∧ d.meaning = q := by
  have hresult : parseTokens tokens stop
      = if tokens.isEmpty then .error .empty
        else (Parse.operand .nothing []).result stop tokens := rfl
  constructor
  · intro h
    cases tokens with
    | nil => exact absurd h (by simp [hresult])
    | cons t ts =>
        obtain ⟨hoperand, -⟩ := Parse.operandFirst_and_restFirst stop q (t :: ts)
        obtain ⟨d, us, ws, hts, hus, hws⟩ := hoperand .nothing [] h
        obtain ⟨-, hrest⟩ := Parse.operandFirst_and_restFirst stop q ws
        obtain ⟨d', e, us', ws', rfl, hus', rfl, hq⟩ := hrest none d.meaning [] hws
        refine ⟨.disjunction (.conjunction d d') e, ?_, hq.symm⟩
        simp [hts, hus, hus', Derivation.yield]
  · rintro ⟨d, hd, rfl⟩
    obtain ⟨c, ⟨s, hrun, hs⟩, houter, hwhole⟩ := d.readFrom tokens hd.symm []
    have hne : tokens ≠ [] := by
      rintro rfl
      obtain ⟨l, w, hw, -⟩ := d.exists_yield_eq_cons (by simp) (by simp)
      simp [hw] at hd
    rw [hresult, if_neg (by simpa using hne), Parse.result, hrun]
    show s.finish stop = _
    rw [Parse.finish_of_completed hs, Parse.finishComplete, houter, ← hwhole]
    rfl

/-- A text with tokens is the query that its tokens are. -/
lemma parse_of_tokenize {text : String} {tokens : List Token} (h : tokenize text = .ok tokens) :
    parse text = parseTokens tokens text.length := by
  simp only [parse, h]

/-- A text is no query exactly when it has no tokens or its lexemes have no derivation. -/
lemma parse?_eq_none_iff {text : String} :
    parse? text = none ↔ (∃ e, tokenize text = .error e) ∨
      ∃ tokens, tokenize text = .ok tokens ∧
        ∀ d : Derivation .disjunction, d.yield ≠ tokens.map Token.lexeme := by
  cases h : tokenize text with
  | error e =>
      have : parse text = .error (.unreadable e) := by simp only [parse, h]
      simp [parse?, this, Except.toOption]
  | ok tokens =>
      have hparse := parse_of_tokenize h
      simp only [parse?, hparse, reduceCtorEq, exists_false, false_or, Except.ok.injEq,
        exists_eq_left']
      constructor
      · intro hnone d hd
        rw [parseTokens_eq_ok_iff.mpr ⟨d, hd, rfl⟩] at hnone
        exact absurd hnone (by simp [Except.toOption])
      · intro hd
        cases hq : parseTokens tokens text.length with
        | error e => rfl
        | ok q =>
            obtain ⟨d, hyield, -⟩ := parseTokens_eq_ok_iff.mp hq
            exact absurd hyield (hd d)

/-- For a positive limit, every text becomes a traversal; only a text that is no query becomes the
empty one. -/
lemma search_eq_ok (text : String) {limit : Int} (hlimit : 1 ≤ limit) :
    ∃ t, Traversal.search text (.int limit) = .ok t ∧ (t = .empty ↔ parse? text = none) := by
  have hpos : positive "limit" (.int limit) = .ok limit := by simp [positive, hlimit]
  unfold Traversal.search
  cases h : parse? text with
  | none => exact ⟨.empty, by rw [hpos]; rfl, by simp⟩
  | some q =>
      refine ⟨Traversal.matching q limit, by rw [hpos]; rfl, ?_⟩
      simp [Traversal.matching, Traversal.empty]

/-- **The parser accepts exactly the grammar.** A text with tokens is a query exactly when its
lexemes have a derivation, the derivation is unique, and it means the query. Hence a search with a
positive limit never fails, and is empty exactly for the texts without tokens or derivation. -/
theorem parse_eq_ok_iff_existsUnique_derivation (text : String) :
    (∀ tokens, tokenize text = .ok tokens →
      (∀ q, parse text = .ok q ↔
        ∃ d : Derivation .disjunction, d.yield = tokens.map Token.lexeme ∧ d.meaning = q) ∧
      ∀ d e : Derivation .disjunction, d.yield = tokens.map Token.lexeme →
        e.yield = tokens.map Token.lexeme → d = e) ∧
    ∀ limit : Int, 1 ≤ limit →
      ∃ t, Traversal.search text (.int limit) = .ok t ∧
        (t = .empty ↔ (∃ e, tokenize text = .error e) ∨
          ∃ tokens, tokenize text = .ok tokens ∧
            ∀ d : Derivation .disjunction, d.yield ≠ tokens.map Token.lexeme) := by
  refine ⟨fun tokens htokens => ⟨fun q => ?_, fun d e hd he => ?_⟩, fun limit hlimit => ?_⟩
  · rw [parse_of_tokenize htokens, parseTokens_eq_ok_iff]
  · exact Derivation.yield_injective (hd.trans he.symm)
  · simpa only [parse?_eq_none_iff] using search_eq_ok text hlimit

/-- A negation and a filter side by side: one derivation, and a search that is not empty. -/
theorem existsUnique_derivation_of_negation_and_filter :
    tokenize "NOT a type:b"
        = .ok [⟨.not "NOT", 0⟩, ⟨.word "a", 4⟩, ⟨.word "type", 6⟩, ⟨.colon, 10⟩, ⟨.word "b", 11⟩] ∧
      (∃ d : Derivation .disjunction,
        d.yield = [.not "NOT", .word "a", .word "type", .colon, .word "b"] ∧
        d.meaning = .and (.not (.term ⟨"text", "a"⟩)) (.term ⟨"type", "b"⟩) ∧
        ∀ e : Derivation .disjunction, e.yield = d.yield → e = d) ∧
      (1 : Int) ≤ 5 ∧ ∃ t, Traversal.search "NOT a type:b" (.int 5) = .ok t ∧ t ≠ .empty := by
  have htokens : tokenize "NOT a type:b"
      = .ok [⟨.not "NOT", 0⟩, ⟨.word "a", 4⟩, ⟨.word "type", 6⟩, ⟨.colon, 10⟩, ⟨.word "b", 11⟩] :=
    rfl
  obtain ⟨hparse, hsearch⟩ := parse_eq_ok_iff_existsUnique_derivation "NOT a type:b"
  obtain ⟨hiff, hunique⟩ := hparse _ htokens
  obtain ⟨d, hd, hq⟩ := (hiff (.and (.not (.term ⟨"text", "a"⟩)) (.term ⟨"type", "b"⟩))).mp rfl
  obtain ⟨t, ht, hempty⟩ := hsearch 5 (by decide)
  refine ⟨htokens, ⟨d, hd, hq, fun e he => hunique e d (he.trans hd) hd⟩, by decide, t, ht, ?_⟩
  intro h
  rcases hempty.mp h with ⟨e, he⟩ | ⟨tokens, htokens', hnone⟩
  · exact absurd (he.symm.trans htokens) (by simp)
  · obtain rfl := Except.ok.inj (htokens'.symm.trans htokens)
    exact hnone d hd

end EntityGraph.Query
