import EntityGraph.Proofs.Query.Descent
/-!
Recursive descent ends inside the tokens and finds what the automaton finds.

Each production is compared with the automaton in the state in which the automaton stands where the
production begins. The comparison also says how far the cursor gets: a production that returns
leaves fewer tokens than it found. So the two loops and the nested calls all go on with fewer
tokens, and one induction on the number of tokens ahead (`operandFollows`) settles them together;
the loops have inductions of their own, below a bound up to which operands are known to be read.

* `Past`: what stands behind a conjunction or a disjunction that has been read.
* `follows_term`, `operandFollows`, `conjunctionFollows`, `disjunctionFollows`: the productions.
* `follows_query`: the whole descent; `follows_production`: every production, from any place.
* `descent_ends_inside`: there is always an outcome, and it is that of `parseTokens`; the cursor
  never leaves the items; what a production returns is made of at least one token.
-/

namespace EntityGraph.Query

variable {ts us : List Token} {stop : Nat}

/-- A list of tokens that does not begin with a lexeme of a kind. -/
def Past (kind : Lexeme → Bool) (us : List Token) : Prop := ∀ t ∈ us.head?, kind t.lexeme = false

lemma past_nil (kind : Lexeme → Bool) : Past kind [] := by simp [Past]

lemma past_cons {kind : Lexeme → Bool} {t : Token} :
    Past kind (t :: us) ↔ kind t.lexeme = false := by
  simp [Past]

/-! ### Terms -/

section

variable (ts : List Token) (stop : Nat) (us : List Token) (pending : Pending) (outer : List Pending)

/-- Reading a value follows the automaton from a field name and its colon on. -/
lemma follows_value (field : String) {bound : Nat} (hbound : us.length ≤ bound) :
    Follows ts stop (do return .term ⟨field, ← Descent.value (items ts stop)⟩) us
      ((Parse.value field pending outer).result stop us) bound
      (fun q => .complete (.of pending outer q)) fun _ => True := by
  rw [Descent.value, bind_assoc]
  refine .peek ?_
  match us with
  | [] => exact .refuse_bind rfl
  | ⟨l, n⟩ :: us =>
      cases l with
      | word s | quoted s =>
          simp only [firstItem_cons, bind_assoc, pure_bind]
          exact .advance (.pure hbound trivial rfl)
      | leftParen | rightParen | colon | and _ | or _ | not _ => exact .refuse_bind rfl

/-- Reading a term that begins with a word and a colon. -/
lemma follows_term_filter {name : String} {m n : Nat} :
    Follows ts stop (Descent.term (items ts stop)) (⟨.word name, m⟩ :: ⟨.colon, n⟩ :: us)
      ((Parse.operand pending outer).result stop (⟨.word name, m⟩ :: ⟨.colon, n⟩ :: us))
      (us.length + 2) (fun q => .complete (.of pending outer q)) fun _ => True := by
  have hcolon : (Parse.operand pending outer).result stop (⟨.word name, m⟩ :: ⟨.colon, n⟩ :: us)
      = ((Parse.word name m pending outer).step ⟨.colon, n⟩).bind fun s => s.result stop us := by
    rw [Parse.result_cons]
    exact Parse.result_cons
  rw [Descent.term, hcolon, Parse.step]
  refine .peek (.peek_next ?_)
  simp only [firstItem_cons, if_pos]
  cases fieldNamed? name with
  | none => exact .refuse rfl
  | some field =>
      exact .advance (.advance (follows_value ts stop us pending outer field (by omega)))

/-- Reading any other term is reading a value. -/
lemma follows_term_bare (h : ∀ w n t ws, us = ⟨.word w, n⟩ :: t :: ws → t.lexeme ≠ .colon) :
    Follows ts stop (Descent.term (items ts stop)) us
      ((Parse.value textField pending outer).result stop us) us.length
      (fun q => .complete (.of pending outer q)) fun _ => True := by
  have hvalue := follows_value ts stop us pending outer textField le_rfl
  rw [Descent.term]
  refine .peek ?_
  match us with
  | [] => exact hvalue
  | ⟨l, n⟩ :: us =>
      cases l with
      | word w =>
          refine .peek_next ?_
          rw [if_neg]
          · exact hvalue
          · match us with
            | [] => simp
            | t :: ws => simpa using h w n t ws rfl
      | quoted _ | leftParen | rightParen | colon | and _ | or _ | not _ => exact hvalue

/-- The lexemes that stand before an operand of their own. -/
def leads : Lexeme → Bool
  | .not _ | .leftParen => true
  | _ => false

/-- Reading a term follows the automaton unless the automaton goes on to an operand of its own. -/
lemma follows_term : ∃ outcome,
    (Past leads us → outcome = (Parse.operand pending outer).result stop us) ∧
    Follows ts stop (Descent.term (items ts stop)) us outcome us.length
      (fun q => .complete (.of pending outer q)) fun _ => True := by
  by_cases hfilter : ∃ w m n ws, us = ⟨.word w, m⟩ :: ⟨.colon, n⟩ :: ws
  · obtain ⟨w, m, n, ws, rfl⟩ := hfilter
    exact ⟨_, fun _ => rfl, follows_term_filter ts stop ws pending outer⟩
  · have hbare : ∀ w n t ws, us = ⟨.word w, n⟩ :: t :: ws → t.lexeme ≠ .colon := by
      rintro w n ⟨l, m⟩ ws rfl rfl
      exact hfilter ⟨w, n, m, ws, rfl⟩
    refine ⟨_, fun hpast => ?_, follows_term_bare ts stop us pending outer hbare⟩
    match us with
    | [] => rfl
    | ⟨l, n⟩ :: us =>
        cases l with
        | not s | leftParen => exact absurd (past_cons.mp hpast) (by simp [leads])
        | quoted s | rightParen | colon | and _ | or _ => rfl
        | word w =>
            have hword : ∀ t ∈ us.head?, t.lexeme ≠ .colon := by
              intro t ht
              obtain ⟨ws, rfl⟩ := List.head?_eq_some_iff.mp ht
              exact hbare w n t ws rfl
            exact (Parse.result_of_completed rfl hword).symm

end

/-! ### Repetitions -/

/-- The lexemes that continue a conjunction. -/
def continuesConjunction : Lexeme → Bool
  | .and _ => true
  | l => Derivation.opens l

/-- The lexemes that continue a disjunction. -/
def continuesDisjunction : Lexeme → Bool
  | .or _ => true
  | l => continuesConjunction l

/-- Reading an operand follows the automaton wherever an operand has to follow. -/
def OperandFollows (ts : List Token) (stop : Nat) (us : List Token) : Prop :=
  ∀ pending outer, Follows ts stop (Descent.operand (items ts stop)) us
    ((Parse.operand pending outer).result stop us) us.length
    (fun q => .complete (.of pending outer q)) fun _ => True

/-- Reading a conjunction follows the automaton where no conjunct is pending. -/
def ConjunctionFollows (ts : List Token) (stop : Nat) (us : List Token) : Prop :=
  ∀ disjunct outer, Follows ts stop (Descent.conjunction (items ts stop)) us
    ((Parse.operand ⟨disjunct, none, 0⟩ outer).result stop us) us.length
    (fun q => .complete ⟨disjunct, q, outer⟩) (Past continuesConjunction)

/-- Reading further conjuncts follows the automaton from a complete operand on. -/
def ConjunctsFollow (ts : List Token) (stop : Nat) (us : List Token) : Prop :=
  ∀ q disjunct outer, Follows ts stop (Descent.conjuncts (items ts stop) q) us
    ((Parse.complete ⟨disjunct, q, outer⟩).result stop us) (us.length + 1)
    (fun q' => .complete ⟨disjunct, q', outer⟩) (Past continuesConjunction)

/-- Reading a disjunction follows the automaton where nothing is pending. -/
def DisjunctionFollows (ts : List Token) (stop : Nat) (us : List Token) : Prop :=
  ∀ outer, Follows ts stop (Descent.disjunction (items ts stop)) us
    ((Parse.operand .nothing outer).result stop us) us.length
    (fun q => .complete ⟨none, q, outer⟩) (Past continuesDisjunction)

/-- Reading further disjuncts follows the automaton from a complete conjunction on. -/
def DisjunctsFollow (ts : List Token) (stop : Nat) (us : List Token) : Prop :=
  ∀ c : Completed, Past continuesConjunction us →
    Follows ts stop (Descent.disjuncts (items ts stop) c.whole) us
      ((Parse.complete c).result stop us) (us.length + 1)
      (fun q => .complete ⟨none, q, c.outer⟩) (Past continuesDisjunction)

section

variable (hoperand : ∀ ws : List Token, ws.length ≤ us.length → OperandFollows ts stop ws)
include hoperand

lemma conjunctsFollow : ConjunctsFollow ts stop us := by
  induction hn : us.length using Nat.strong_induction_on generalizing us with
  | _ n ih =>
      subst hn
      intro q disjunct outer
      -- behind the next operand there are fewer tokens
      have hnext : ∀ vs : List Token, vs.length ≤ us.length → Follows ts stop
          (do Descent.conjuncts (items ts stop) (.and q (← Descent.operand (items ts stop)))) vs
          ((Parse.operand ⟨disjunct, some q, 0⟩ outer).result stop vs) (us.length + 1)
          (fun q' => .complete ⟨disjunct, q', outer⟩) (Past continuesConjunction) := by
        intro vs hvs
        refine .bind (hoperand vs hvs ⟨disjunct, some q, 0⟩ outer) fun a ws hws _ => ?_
        have hless : ws.length < us.length := by omega
        exact (ih ws.length hless (fun vs hvs => hoperand vs (by omega)) rfl _ _ _).mono (by omega)
      rw [Descent.conjuncts]
      refine .peek ?_
      match us with
      | [] => exact .pure (by simp) (past_nil _) rfl
      | ⟨l, n⟩ :: us =>
          cases l with
          | and s => exact .advance (hnext us (by simp))
          | not _ | leftParen | word _ | quoted _ =>
              simp only [firstItem_cons, Derivation.opens, if_true, Descent.juxtaposed]
              exact hnext _ le_rfl
          | or _ | rightParen | colon => exact .pure (by simp) (past_cons.mpr rfl) rfl

lemma conjunctionFollows : ConjunctionFollows ts stop us := by
  intro disjunct outer
  rw [Descent.conjunction]
  refine .bind (hoperand us le_rfl ⟨disjunct, none, 0⟩ outer) fun a ws hws _ => ?_
  exact (conjunctsFollow (fun vs hvs => hoperand vs (by omega)) _ _ _).mono (by omega)

lemma disjunctsFollow : DisjunctsFollow ts stop us := by
  induction hn : us.length using Nat.strong_induction_on generalizing us with
  | _ n ih =>
      subst hn
      intro c hpast
      rw [Descent.disjuncts]
      refine .peek ?_
      match us with
      | [] => exact .pure (by simp) (past_nil _) rfl
      | ⟨l, n⟩ :: us =>
          rw [List.length_cons] at ih hoperand
          cases l with
          | or s =>
              refine .advance (.bind (conjunctionFollows (fun vs hvs => hoperand vs (by omega))
                (some c.whole) c.outer) fun a ws hws hends => ?_)
              exact (ih ws.length (by omega) (fun vs hvs => hoperand vs (by omega)) rfl
                ⟨some c.whole, a, c.outer⟩ hends).mono (by rw [List.length_cons]; omega)
          | rightParen | colon => exact .pure (by simp) (past_cons.mpr rfl) rfl
          | and _ | not _ | leftParen | word _ | quoted _ =>
              exact absurd (past_cons.mp hpast) (by simp [continuesConjunction, Derivation.opens])

lemma disjunctionFollows : DisjunctionFollows ts stop us := by
  intro outer
  rw [Descent.disjunction]
  refine .bind (conjunctionFollows hoperand none outer) fun a ws hws hends => ?_
  exact (disjunctsFollow (fun vs hvs => hoperand vs (by omega)) ⟨none, a, outer⟩ hends).mono
    (by omega)

end

/-! ### Operands -/

/-- Behind a disjunction, no tokens stand but those that begin with a closing parenthesis or a
colon. -/
lemma not_past_continuesDisjunction {l : Lexeme} {n : Nat}
    (hl : l ≠ .rightParen) (hcolon : l ≠ .colon) : ¬Past continuesDisjunction (⟨l, n⟩ :: us) := by
  rw [past_cons]
  cases l <;> simp_all [continuesDisjunction, continuesConjunction, Derivation.opens]

/-- The lexemes that negate an operand. -/
def negates : Lexeme → Bool
  | .not _ => true
  | _ => false

/-- Reading a primary phrase follows the automaton unless the automaton takes a negation. -/
lemma follows_primary (ts : List Token) (stop : Nat) (us : List Token) (pending : Pending)
    (outer : List Pending)
    (hinner : ∀ ws : List Token, ws.length < us.length → DisjunctionFollows ts stop ws) :
    ∃ outcome, (Past negates us → outcome = (Parse.operand pending outer).result stop us) ∧
      Follows ts stop (Descent.primary (items ts stop)) us outcome us.length
        (fun q => .complete (.of pending outer q)) fun _ => True := by
  by_cases hgroup : ∃ n ws, us = ⟨.leftParen, n⟩ :: ws
  · obtain ⟨n, ws, rfl⟩ := hgroup
    refine ⟨_, fun _ => rfl, ?_⟩
    rw [Descent.primary]
    refine .peek (.advance ?_)
    refine .bind (hinner ws (by simp) (pending :: outer)) fun q vs hvs hends => ?_
    match vs with
    | [] => exact .expect_refuse (by simp) rfl
    | ⟨l, m⟩ :: vs =>
        cases l with
        | rightParen =>
            rw [List.length_cons] at hvs
            exact .expect rfl (.pure (by rw [List.length_cons, List.tail_cons]; omega) trivial rfl)
        | colon => exact .expect_refuse (by simp) rfl
        | and _ | or _ | not _ | leftParen | word _ | quoted _ =>
            exact absurd hends (not_past_continuesDisjunction (by simp) (by simp))
  · obtain ⟨outcome, houtcome, hterm⟩ := follows_term ts stop us pending outer
    refine ⟨outcome, fun hpast => houtcome fun t ht => ?_, ?_⟩
    · obtain ⟨vs, rfl⟩ := List.head?_eq_some_iff.mp ht
      obtain ⟨l, n⟩ := t
      cases l with
      | leftParen => exact absurd ⟨n, vs, rfl⟩ hgroup
      | not s => exact absurd (past_cons.mp hpast) (by simp [negates])
      | and _ | or _ | colon | rightParen | word _ | quoted _ => rfl
    · rw [Descent.primary]
      refine .peek ?_
      match us with
      | [] => exact hterm
      | ⟨l, n⟩ :: us =>
          cases l with
          | leftParen => exact absurd ⟨n, us, rfl⟩ hgroup
          | and _ | or _ | not _ | colon | rightParen | word _ | quoted _ => exact hterm

/-- **Reading an operand follows the automaton**, whatever tokens are ahead. -/
theorem operandFollows (ts : List Token) (stop : Nat) (us : List Token) :
    OperandFollows ts stop us := by
  induction hn : us.length using Nat.strong_induction_on generalizing us with
  | _ n ih =>
      subst hn
      intro pending outer
      obtain ⟨outcome, houtcome, hprimary⟩ := follows_primary ts stop us pending outer
        fun ws hws => disjunctionFollows fun vs hvs => ih vs.length (by omega) vs rfl
      rw [Descent.operand]
      refine .peek ?_
      match us with
      | [] =>
          rw [← houtcome (past_nil _)]
          exact hprimary
      | ⟨l, n⟩ :: us =>
          cases l with
          | not s =>
              refine .advance (.bind (ih us.length (by simp) us rfl
                { pending with negations := pending.negations + 1 } outer) fun q vs hvs _ => ?_)
              refine .pure (hvs.trans (by simp)) trivial ?_
              rw [Completed.of_not]
          | and _ | or _ | colon | rightParen | leftParen | word _ | quoted _ =>
              rw [← houtcome (past_cons.mpr rfl)]
              exact hprimary

/-! ### Queries -/

/-- **Reading a query follows the automaton** to the end of the text. -/
theorem follows_query (ts : List Token) (stop : Nat) :
    Follows ts stop (Descent.query (items ts stop)) ts (parseTokens ts stop) (ts.length + 1)
      (fun q => .complete ⟨none, q, []⟩) (· = []) := by
  rw [Descent.query]
  refine .peek ?_
  cases ts with
  | nil => exact .refuse rfl
  | cons t ts =>
      rw [if_neg (by simp), parseTokens_of_ne_nil (List.cons_ne_nil t ts)]
      refine .bind (disjunctionFollows (fun ws _ => operandFollows _ _ ws) [])
        fun q vs hvs hends => ?_
      match vs with
      | [] => exact .expect rfl (.pure (by simp) rfl rfl)
      | ⟨l, m⟩ :: vs =>
          cases l with
          | rightParen | colon => exact .expect_refuse (by simp) rfl
          | and _ | or _ | not _ | leftParen | word _ | quoted _ =>
              exact absurd hends (not_past_continuesDisjunction (by simp) (by simp))

/-- **Every production makes progress**, wherever it begins: it follows some outcome, and leaves
fewer tokens than it found. -/
theorem follows_production (p : Descent.Production) (ts : List Token) (stop : Nat)
    (us : List Token) : ∃ outcome next ends,
      Follows ts stop (p.read (items ts stop)) us outcome us.length next ends := by
  have hoperand : ∀ ws : List Token, OperandFollows ts stop ws := operandFollows ts stop
  cases p with
  | disjunction => exact ⟨_, _, _, disjunctionFollows (fun ws _ => hoperand ws) []⟩
  | conjunction => exact ⟨_, _, _, conjunctionFollows (fun ws _ => hoperand ws) none []⟩
  | juxtaposed =>
      rw [Descent.Production.read, Descent.juxtaposed]
      exact ⟨_, _, _, hoperand us .nothing []⟩
  | operand => exact ⟨_, _, _, hoperand us .nothing []⟩
  | primary =>
      obtain ⟨outcome, -, h⟩ := follows_primary ts stop us .nothing []
        fun _ _ => disjunctionFollows fun vs _ => hoperand vs
      exact ⟨_, _, _, h⟩
  | term =>
      obtain ⟨outcome, -, h⟩ := follows_term ts stop us .nothing []
      exact ⟨_, _, _, h⟩

/-- The error of tokens points at one of them or at the end behind them, if there are any. -/
lemma position_of_parseTokens {e : ParseError} (hts : ts ≠ [])
    (h : parseTokens ts stop = .error e) : ∃ x ∈ items ts stop, x.2 = e.position := by
  have hitem : ∀ t ∈ ts, ∃ x ∈ items ts stop, x.2 = t.position := fun t ht =>
    ⟨t.item, List.mem_append_left _ (List.mem_map_of_mem ht), rfl⟩
  rw [parseTokens_of_ne_nil hts, Parse.result] at h
  cases hrun : Parse.run (.operand .nothing []) ts with
  | ok s =>
      rw [hrun] at h
      obtain ⟨wanted, rfl⟩ := Parse.finish_inv h
      exact ⟨(none, stop), by simp [items], rfl⟩
  | error e' =>
      rw [hrun] at h
      obtain rfl := Except.error.inj h
      obtain ⟨before, t, after, s, rfl, hbefore, hstep⟩ := Parse.run_inv hrun
      rcases Parse.step_inv hstep with ⟨wanted, rfl⟩ | ⟨w, m, pending, outer, rfl, -, -, rfl⟩
      · exact hitem t (by simp)
      · obtain ⟨earlier, -, rfl, -⟩ := Parse.eq_concat_of_run_eq_word hbefore
        exact hitem ⟨.word w, m⟩ (by simp)

/-- **Recursive descent ends inside the tokens.** Reading a query has an outcome, and it is that of
the automaton: no index without an item is ever looked up, and the cursor never leaves the items. A
query is returned at the end of the text, with a derivation from all tokens; an error points at a
token or at the end, and at offset 0 if there are no tokens. Every production has an outcome of the
same kind wherever it begins, and has moved on by at least one token when it returns. -/
theorem descent_ends_inside (ts : List Token) (stop : Nat) :
    (∃ c, (Descent.query (items ts stop)).runFrom .start
        = some ((parseTokens ts stop).mapError Halt.refused, c) ∧
      c.Inside (items ts stop) ∧
      (∀ q, parseTokens ts stop = .ok q → c.place = ts.length ∧
        ∃ d : Derivation .disjunction, d.yield = ts.map Token.lexeme ∧ d.meaning = q) ∧
      ∀ e, parseTokens ts stop = .error e →
        if ts = [] then e.position = 0 else ∃ x ∈ items ts stop, x.2 = e.position) ∧
    ∀ (p : Descent.Production) (c : Cursor), c.Inside (items ts stop) →
      ∃ o c', (p.read (items ts stop)).runFrom c = some (o, c') ∧ c'.Inside (items ts stop) ∧
        (∀ i, o ≠ .error (.outOfRange i)) ∧ ∀ q, o = .ok q → c.place < c'.place := by
  constructor
  · have hstart : Cursor.start.Before ts stop ts :=
      ⟨⟨by simp [Cursor.start], by simp [Cursor.start]⟩, rfl⟩
    obtain ⟨o, c, hrun, hsettled⟩ := follows_query ts stop .start hstart
    cases hsettled with
    | returned hbefore _ hends houtcome =>
        subst hends
        rw [houtcome]
        refine ⟨c, hrun, hbefore.inside, fun q hq => ⟨by simpa using hbefore.place_add, ?_⟩,
          fun e he => absurd he (by simp [Parse.finish, Parse.finishComplete])⟩
        exact parseTokens_eq_ok_iff.mp (houtcome.trans hq)
    | refused hinside houtcome =>
        rw [houtcome]
        refine ⟨c, hrun, hinside, fun q hq => absurd hq (by simp), fun e he => ?_⟩
        split_ifs with hts
        · subst hts
          obtain rfl := Except.error.inj (houtcome.trans he)
          rfl
        · exact position_of_parseTokens hts (houtcome.trans he)
  · intro p c hc
    have hbefore : c.Before ts stop (ts.drop c.place) := ⟨hc, rfl⟩
    obtain ⟨outcome, next, ends, hp⟩ := follows_production p ts stop (ts.drop c.place)
    obtain ⟨o, c', hrun, hsettled⟩ := hp c hbefore
    refine ⟨o, c', hrun, ?_⟩
    cases hsettled with
    | returned hbefore' hless _ _ =>
        refine ⟨hbefore'.inside, by simp, fun q _ => ?_⟩
        have hplace := hbefore.place_add
        have hplace' := hbefore'.place_add
        omega
    | refused hinside _ => exact ⟨hinside, by simp, by simp⟩

/-- Items without an end do run out: the same word is looked at again and again, until the cursor
has moved on from it twice. -/
example : ((Descent.query [(some (.word "a"), 0)]).runFrom .start).map Prod.fst
    = some (.error (.outOfRange 1)) := by cbv

end EntityGraph.Query
