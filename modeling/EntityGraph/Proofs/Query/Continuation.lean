import EntityGraph.Proofs.Query.Juxtaposition
/-!
Where a query cannot be continued.

The parser fails at a token that no continuation can rescue, and whatever it has read before that
token can still become a query: a value and enough closing parentheses complete it, in every state
alike. The one error that is reported earlier is that of an unknown field, which points at the word
before the colon.

* `Viable`: some query begins with these lexemes; the end of a text counts as one more of them.
* `CompletableAt`: the characters of a text up to an offset are the beginning of a query.
* `BlockedAt`, `MisnamedAt`: the places that an error can point at.
* `Parse.exists_completion`: every state can be completed.
* `Parse.run_inv`, `Parse.step_inv`, `Parse.finish_inv`: where reading fails, and with which error.
* `names_of_run`: a word before a colon that has been read names a field.
* `parse_fails_at_obstacle`: what the error of a text with tokens points at.
-/

namespace EntityGraph.Query

/-! ### Beginnings of queries -/

/-- The lexemes of a text and its end, which is no lexeme. -/
def withEnd (w : List Lexeme) : List (Option Lexeme) := w.map some ++ [none]

/-- Some query begins with these lexemes. -/
def Viable (u : List (Option Lexeme)) : Prop :=
  ∃ text q w, parse text = .ok q ∧ HasLexemes text w ∧ u <+: withEnd w

/-- The characters of a text up to an offset, which have these tokens, can be completed to a
query. -/
def CompletableAt (text : String) (n : Nat) (before : List Token) : Prop :=
  ∃ more v q, HasLexemes (String.ofList (text.toList.take n) ++ more)
      (before.map Token.lexeme ++ v) ∧
    parse (String.ofList (text.toList.take n) ++ more) = .ok q

/-- A token as its lexeme and where it stands. -/
def Token.item (t : Token) : Option Lexeme × Nat := (some t.lexeme, t.position)

/-- The tokens of a text of length `stop`, and its end after them. -/
def items (ts : List Token) (stop : Nat) : List (Option Lexeme × Nat) :=
  ts.map Token.item ++ [(none, stop)]

/-- What stands at an offset behind some tokens of a text, possibly its end, cannot follow them in
any query, while these tokens are the beginning of one. -/
structure BlockedAt (text : String) (ts before : List Token) (found : Option Lexeme) (n : Nat) :
    Prop where
  stands : before.map Token.item ++ [(found, n)] <+: items ts text.length
  completable : CompletableAt text n before
  blocked : ¬Viable (before.map (some ·.lexeme) ++ [found])

/-- Behind some tokens stands a word before a colon, at offset `n`, that names no field. -/
def MisnamedAt (ts before : List Token) (name : String) (n : Nat) : Prop :=
  (∃ c after, ts = before ++ ⟨.word name, n⟩ :: ⟨.colon, c⟩ :: after) ∧ ∀ field, ¬Names name field

/-! ### Where reading fails -/

namespace Parse

variable {s s' : Parse} {c : Completed} {t : Token} {ts us before : List Token} {e : ParseError}
  {stop : Nat}

/-- A run that fails does so at a token, in the state that the tokens before it lead to. -/
lemma run_inv (h : run s ts = .error e) : ∃ before t after s',
    ts = before ++ t :: after ∧ run s before = .ok s' ∧ s'.step t = .error e := by
  induction ts generalizing s with
  | nil => exact absurd h (by simp [run, pure, Except.pure])
  | cons t ts ih =>
      rw [run_cons] at h
      cases hstep : s.step t with
      | error e' =>
          rw [hstep] at h
          exact ⟨[], t, ts, s, rfl, rfl, hstep.trans h⟩
      | ok s₁ =>
          rw [hstep] at h
          obtain ⟨before, t', after, s', rfl, hrun, hfail⟩ := ih h
          refine ⟨t :: before, t', after, s', rfl, ?_, hfail⟩
          rw [run_cons, hstep]
          exact hrun

/-- A run over two parts leads through a state between them. -/
lemma run_append_inv (h : run s (ts ++ us) = .ok s') :
    ∃ mid, run s ts = .ok mid ∧ run mid us = .ok s' := by
  rw [run_append] at h
  cases hts : run s ts with
  | error e => exact absurd h (by simp [hts, Except.bind])
  | ok mid => exact ⟨mid, rfl, by simpa [hts, Except.bind] using h⟩

lemma run_singleton : run s [t] = s.step t := by
  rw [run_cons]
  cases s.step t <;> rfl

lemma stepOperand_inv {pending : Pending} {outer : List Pending}
    (h : stepOperand pending outer t = .error e) :
    ∃ wanted, e = .mismatch wanted (some t.lexeme) t.position := by
  rw [stepOperand] at h
  cases hl : t.lexeme with
  | not _ | leftParen | word _ | quoted _ =>
      rw [hl] at h
      exact absurd h (by simp)
  | rightParen | colon | and _ | or _ =>
      rw [hl] at h
      exact ⟨_, (Except.error.inj h).symm⟩

lemma stepComplete_inv (h : stepComplete c t = .error e) :
    ∃ wanted, e = .mismatch wanted (some t.lexeme) t.position := by
  cases hl : t.lexeme with
  | not _ | leftParen | word _ | quoted _ =>
      rw [stepComplete_of_opens (by rw [hl]; rfl)] at h
      rw [← hl]
      exact stepOperand_inv h
  | and _ | or _ =>
      rw [stepComplete, hl] at h
      exact absurd h (by simp)
  | colon =>
      rw [stepComplete, hl] at h
      exact ⟨_, (Except.error.inj h).symm⟩
  | rightParen =>
      rw [stepComplete, hl] at h
      cases houter : c.outer with
      | nil =>
          simp only [houter] at h
          exact ⟨_, (Except.error.inj h).symm⟩
      | cons pending outer =>
          simp only [houter] at h
          exact absurd h (by simp)

/-- **One token that fails** is reported where it stands, except for a colon after a word that names
no field, which is reported where the word stands. -/
lemma step_inv (h : s.step t = .error e) :
    (∃ wanted, e = .mismatch wanted (some t.lexeme) t.position) ∨
      ∃ w n pending outer, s = word w n pending outer ∧ t.lexeme = .colon ∧
        fieldNamed? w = none ∧ e = .unknownField w n := by
  cases s with
  | operand pending outer => exact .inl (stepOperand_inv h)
  | complete c => exact .inl (stepComplete_inv h)
  | value field pending outer =>
      rw [step] at h
      cases hl : t.lexeme with
      | word _ | quoted _ =>
          rw [hl] at h
          exact absurd h (by simp)
      | leftParen | rightParen | colon | and _ | or _ | not _ =>
          rw [hl] at h
          exact .inl ⟨_, (Except.error.inj h).symm⟩
  | word w n pending outer =>
      by_cases hcolon : t.lexeme = .colon
      · rw [step, hcolon] at h
        cases hw : fieldNamed? w with
        | some field =>
            simp only [hw] at h
            exact absurd h (by simp)
        | none =>
            simp only [hw] at h
            exact .inr ⟨w, n, pending, outer, rfl, hcolon, hw, (Except.error.inj h).symm⟩
      · rw [step_of_completed rfl hcolon] at h
        exact .inl (stepComplete_inv h)

/-- The end of a text that fails is reported as such. -/
lemma finish_inv (h : s.finish stop = .error e) : ∃ wanted, e = .mismatch wanted none stop := by
  have hcomplete : ∀ c, finishComplete stop c = .error e →
      ∃ wanted, e = .mismatch wanted none stop := by
    intro c hc
    rw [finishComplete] at hc
    split at hc
    · exact absurd hc (by simp)
    · exact ⟨_, (Except.error.inj hc).symm⟩
  cases s with
  | operand _ _ | value _ _ _ => exact ⟨_, (Except.error.inj h).symm⟩
  | word w n pending outer => exact hcomplete _ h
  | complete c => exact hcomplete c h

/-! ### Every state can be completed -/

/-- A value and a number of closing parentheses. -/
def closing (k : Nat) : List Token := ⟨.quoted "", 0⟩ :: List.replicate k ⟨.rightParen, 0⟩

/-- A text in quotes can follow in every state, and completes an operand. -/
lemma exists_step_quoted (s : Parse) (v : String) (n : Nat) :
    ∃ c, s.step ⟨.quoted v, n⟩ = .ok (complete c) := by
  cases s <;> exact ⟨_, rfl⟩

/-- After a complete operand, a query ends when all parentheses are closed. -/
lemma exists_result_of_closed (stop : Nat) (disjunct : Option Query) (conjunction : Query)
    (outer : List Pending) : ∃ q, (complete ⟨disjunct, conjunction, outer⟩).result stop
      (List.replicate outer.length ⟨.rightParen, 0⟩) = .ok q := by
  induction outer generalizing disjunct conjunction with
  | nil => exact ⟨_, rfl⟩
  | cons pending outer ih =>
      obtain ⟨q, hq⟩ := ih pending.disjunct
        (Pending.conjoin pending.conjunct (Pending.negate pending.negations
          (Completed.whole ⟨disjunct, conjunction, pending :: outer⟩)))
      refine ⟨q, ?_⟩
      rw [List.length_cons, List.replicate_succ, result_cons]
      exact hq

/-- **Every state can be completed**: with a value and the closing parentheses that are missing. -/
theorem exists_completion (s : Parse) (stop : Nat) :
    ∃ k q, s.result stop (closing k) = .ok q := by
  obtain ⟨⟨disjunct, conjunction, outer⟩, hstep⟩ := exists_step_quoted s "" 0
  obtain ⟨q, hq⟩ := exists_result_of_closed stop disjunct conjunction outer
  refine ⟨outer.length, q, ?_⟩
  rw [closing, result_cons, hstep]
  exact hq

/-- What is read after some tokens is read from the state that they lead to. -/
lemma result_append (h : run s ts = .ok s') : s.result stop (ts ++ us) = s'.result stop us := by
  rw [result, run_append, h]
  rfl

/-! ### Words before a colon -/

section

variable {w : String} {n : Nat} {pending : Pending} {outer : List Pending}

lemma eq_of_stepOperand_eq_word {pending' : Pending} {outer' : List Pending}
    (h : stepOperand pending' outer' t = .ok (word w n pending outer)) : t = ⟨.word w, n⟩ := by
  obtain ⟨l, m⟩ := t
  cases l with
  | word v =>
      obtain ⟨rfl, rfl, -, -⟩ := Parse.word.inj (Except.ok.inj h)
      rfl
  | not _ | leftParen | quoted _ => exact absurd (Except.ok.inj h) (by simp)
  | rightParen | colon | and _ | or _ => exact absurd h (by simp [stepOperand])

lemma eq_of_stepComplete_eq_word (h : stepComplete c t = .ok (word w n pending outer)) :
    t = ⟨.word w, n⟩ := by
  cases hl : t.lexeme with
  | not _ | leftParen | word _ | quoted _ =>
      rw [stepComplete_of_opens (by rw [hl]; rfl)] at h
      exact eq_of_stepOperand_eq_word h
  | and _ | or _ =>
      rw [stepComplete, hl] at h
      exact absurd (Except.ok.inj h) (by simp)
  | colon =>
      rw [stepComplete, hl] at h
      exact absurd h (by simp)
  | rightParen =>
      rw [stepComplete, hl] at h
      cases houter : c.outer <;> simp [houter] at h

/-- A bare word waits only right after its own token. -/
lemma eq_of_step_eq_word (h : s.step t = .ok (word w n pending outer)) : t = ⟨.word w, n⟩ := by
  cases s with
  | operand pending' outer' => exact eq_of_stepOperand_eq_word h
  | complete c => exact eq_of_stepComplete_eq_word h
  | value field pending' outer' =>
      rw [step] at h
      cases hl : t.lexeme <;> simp [hl] at h
  | word w' n' pending' outer' =>
      by_cases hcolon : t.lexeme = .colon
      · rw [step, hcolon] at h
        cases hw : fieldNamed? w' <;> simp [hw] at h
      · rw [step_of_completed rfl hcolon] at h
        exact eq_of_stepComplete_eq_word h

/-- If a bare word waits after some tokens, it was the last of them. -/
lemma eq_concat_of_run_eq_word (h : run (operand .nothing []) ts = .ok (word w n pending outer)) :
    ∃ before s, ts = before ++ [⟨.word w, n⟩] ∧ run (operand .nothing []) before = .ok s := by
  rcases List.eq_nil_or_concat ts with rfl | ⟨before, t, rfl⟩
  · exact absurd (Except.ok.inj h) (by simp)
  · rw [List.concat_eq_append] at h ⊢
    obtain ⟨s, hbefore, hstep⟩ := run_append_inv h
    rw [run_singleton] at hstep
    rw [eq_of_step_eq_word hstep]
    exact ⟨before, s, rfl, hbefore⟩

end

/-- A colon can be read only after a bare word that names a field. -/
lemma exists_field_of_step_colon {n : Nat} (h : s.step ⟨.colon, n⟩ = .ok s') :
    ∃ w m pending outer field, s = word w m pending outer ∧ Names w field := by
  cases s with
  | operand _ _ | value _ _ _ | complete _ =>
      exact absurd h (by simp [step, stepOperand, stepComplete])
  | word w m pending outer =>
      cases hw : fieldNamed? w with
      | none => simp [step, hw] at h
      | some field => exact ⟨w, m, pending, outer, field, rfl, fieldNamed?_eq_some_iff.mp hw⟩

/-- **A word before a colon that has been read names a field.** -/
lemma names_of_run {w : String} {m n : Nat}
    (h : run s (ts ++ [⟨.word w, m⟩, ⟨.colon, n⟩]) = .ok s') : ∃ field, Names w field := by
  rw [List.append_cons] at h
  obtain ⟨s₂, hword, hcolon⟩ := run_append_inv h
  rw [run_singleton] at hcolon
  obtain ⟨v, k, pending, outer, field, rfl, hfield⟩ := exists_field_of_step_colon hcolon
  obtain ⟨s₁, -, hstep⟩ := run_append_inv hword
  rw [run_singleton] at hstep
  obtain ⟨rfl, -⟩ : w = v ∧ m = k := by simpa using eq_of_step_eq_word hstep
  exact ⟨field, hfield⟩

end Parse

/-! ### What the tokens before an error are the beginning of -/

open Parse in
lemma parseTokens_of_ne_nil {ts : List Token} (hts : ts ≠ []) (stop : Nat) :
    parseTokens ts stop = (operand .nothing []).result stop ts := by
  rw [parseTokens, if_neg (by simpa using hts)]
  rfl

/-- The closing tokens as a text. -/
def closingText (k : Nat) : String := " \"\"" ++ String.ofList (List.replicate k ')')

lemma lexes_replicate_rightParen (k : Nat) :
    Lexes (List.replicate k ')') (List.replicate k .rightParen) := by
  induction k with
  | zero => exact fun n => ⟨[], rfl, rfl⟩
  | succ k ih => exact lexes_rightParen.append ih

/-- A text with the closing tokens after it. -/
lemma hasLexemes_closingText {text : String} {w : List Lexeme} (h : HasLexemes text w) (k : Nat) :
    HasLexemes (text ++ closingText k) (w ++ (Parse.closing k).map Token.lexeme) := by
  have hparts := ((h.lexes_concat (c := ' ') rfl lexes_blank).append (lexes_quoteChars "")).append
    (lexes_replicate_rightParen k)
  refine Lexes.tokenize ?_
  simpa [closingText, Parse.closing, quoteChars] using hparts

/-- **What has been read can be completed.** -/
theorem completableAt_of_run {text : String} {n : Nat} {before : List Token} {s : Parse}
    (htext : HasLexemes (String.ofList (text.toList.take n)) (before.map Token.lexeme))
    (hrun : Parse.run (.operand .nothing []) before = .ok s) : CompletableAt text n before := by
  obtain ⟨k, q, hq⟩ := s.exists_completion 0
  obtain ⟨ts, htokens, hts⟩ := hasLexemes_closingText htext k
  rw [← List.map_append] at hts
  refine ⟨closingText k, _, q, ⟨ts, htokens, by rw [hts, List.map_append]⟩, ?_⟩
  rw [parse_of_tokenize htokens, parseTokens_congr hts _ 0,
    parseTokens_of_ne_nil (by simp [Parse.closing]), Parse.result_append hrun]
  exact hq

/-! ### What no query goes on with -/

/-- Lexemes with something behind them are the beginning of a list with its end. -/
lemma eq_append_of_prefix_withEnd {u w : List Lexeme} {found : Option Lexeme}
    (h : u.map some ++ [found] <+: withEnd w) : ∃ v, w = u ++ v ∧ v.head? = found := by
  induction u generalizing w with
  | nil =>
      cases w with
      | nil => exact ⟨[], rfl, (List.cons_prefix_cons.mp h).1.symm⟩
      | cons l w => exact ⟨l :: w, rfl, (List.cons_prefix_cons.mp h).1.symm⟩
  | cons x u ih =>
      cases w with
      | nil => exact absurd (List.cons_prefix_cons.mp h).1 (by simp)
      | cons l w =>
          obtain ⟨hx, htail⟩ := List.cons_prefix_cons.mp h
          obtain ⟨v, rfl, hv⟩ := ih htail
          exact ⟨v, by rw [Option.some.inj hx]; rfl, hv⟩

/-- If some query goes on with a lexeme behind some tokens, or ends there, the parser accepts these
tokens with others behind them, wherever they stand. -/
lemma exists_parseTokens_of_viable {before : List Token} {found : Option Lexeme}
    (h : Viable (before.map (some ·.lexeme) ++ [found])) : ∃ v q, v.head? = found ∧
      ∀ after stop, after.map Token.lexeme = v → parseTokens (before ++ after) stop = .ok q := by
  obtain ⟨text, q, w, hq, ⟨ts, htokens, hts⟩, hbegin⟩ := h
  rw [show before.map (some ·.lexeme) = (before.map Token.lexeme).map some from
    (List.map_map ..).symm] at hbegin
  obtain ⟨v, rfl, hv⟩ := eq_append_of_prefix_withEnd hbegin
  refine ⟨v, q, hv, fun after stop hafter => ?_⟩
  have hsame : (before ++ after).map Token.lexeme = ts.map Token.lexeme := by
    rw [List.map_append, hafter, hts]
  rwa [parseTokens_congr hsame stop text.length, ← parse_of_tokenize htokens]

/-- What can be completed is the beginning of a query. -/
lemma CompletableAt.viable {text : String} {n : Nat} {before : List Token}
    (h : CompletableAt text n before) : Viable (before.map (some ·.lexeme)) := by
  obtain ⟨more, v, q, hlexemes, hq⟩ := h
  exact ⟨_, q, _, hq, hlexemes, v.map some ++ [none], by simp [withEnd]⟩

lemma Token.item_injective : Function.Injective Token.item := by
  rintro ⟨l, n⟩ ⟨l', n'⟩ h
  simpa [Token.item] using h

namespace BlockedAt

variable {text : String} {ts before before' : List Token} {found found' : Option Lexeme}
  {n n' : Nat}

/-- Behind a blocked place nothing can be completed. -/
lemma length_le (h : BlockedAt text ts before found n) (h' : BlockedAt text ts before' found' n') :
    before'.length ≤ before.length := by
  by_contra hlt
  have hstands : before.map Token.item ++ [(found, n)] <+: before'.map Token.item := by
    refine List.prefix_of_prefix_length_le h.stands
      ((List.prefix_append _ _).trans h'.stands) ?_
    simp only [List.length_append, List.length_map, List.length_singleton]
    omega
  have hlexemes : before.map (some ·.lexeme) ++ [found] <+: before'.map (some ·.lexeme) := by
    simpa [Token.item, Function.comp_def] using hstands.map Prod.fst
  obtain ⟨text', q, w, hq, hw, hbegin⟩ := h'.completable.viable
  exact h.blocked ⟨text', q, w, hq, hw, hlexemes.trans hbegin⟩

/-- A text is blocked at one place at most. -/
lemma unique (h : BlockedAt text ts before found n) (h' : BlockedAt text ts before' found' n') :
    before' = before ∧ found' = found ∧ n' = n := by
  have hlength : before.length = before'.length := Nat.le_antisymm (h'.length_le h) (h.length_le h')
  have hsame : before.map Token.item ++ [(found, n)] = before'.map Token.item ++ [(found', n')] :=
    (List.prefix_of_prefix_length_le h.stands h'.stands (by simp [hlength])).eq_of_length
      (by simp [hlength])
  obtain ⟨hbefore, hlast⟩ := List.append_inj hsame (by simp [hlength])
  obtain ⟨rfl, rfl⟩ := Prod.mk.inj (List.cons.inj hlast).1
  exact ⟨(Token.item_injective.list_map hbefore).symm, rfl, rfl⟩

end BlockedAt

section

variable {text : String} {before after : List Token} {t : Token} {s : Parse} {e : ParseError}

/-- **A token that fails cannot follow the tokens before it** in any query. -/
lemma blockedAt_of_step (htokens : tokenize text = .ok (before ++ t :: after))
    (hrun : Parse.run (.operand .nothing []) before = .ok s) (hstep : s.step t = .error e) :
    BlockedAt text (before ++ t :: after) before (some t.lexeme) t.position := by
  refine ⟨⟨after.map Token.item ++ [(none, text.length)], by simp [items, Token.item]⟩,
    completableAt_of_run (hasLexemes_split htokens).1 hrun, fun hviable => ?_⟩
  obtain ⟨v, q, hv, hparse⟩ := exists_parseTokens_of_viable hviable
  obtain ⟨v, rfl⟩ := List.head?_eq_some_iff.mp hv
  have hq := hparse (t :: v.map (⟨·, 0⟩)) 0 (by simp [Function.comp_def])
  rw [parseTokens_of_ne_nil (by simp), Parse.result_append hrun, Parse.result_cons, hstep] at hq
  exact absurd hq (by simp [Except.bind])

/-- **An end that fails cannot follow the tokens before it**: they are no query. -/
lemma blockedAt_of_finish (htokens : tokenize text = .ok before) (hne : before ≠ [])
    (hrun : Parse.run (.operand .nothing []) before = .ok s)
    (hfinish : s.finish text.length = .error e) :
    BlockedAt text before before none text.length := by
  have hall : text.toList.take text.length = text.toList := by
    rw [← String.length_toList, List.take_length]
  refine ⟨List.prefix_rfl, completableAt_of_run ⟨before, ?_, rfl⟩ hrun, fun hviable => ?_⟩
  · rwa [hall, String.ofList_toList]
  · obtain ⟨v, q, hv, hparse⟩ := exists_parseTokens_of_viable hviable
    obtain rfl := List.head?_eq_none_iff.mp hv
    have hq := hparse [] text.length rfl
    rw [List.append_nil, parseTokens_of_ne_nil hne, Parse.result, hrun] at hq
    exact absurd (hq.symm.trans hfinish) (by simp)

/-- A word that is not looked up to a field, with a colon behind it. -/
lemma misnamedAt_of_step {name : String} {n : Nat} (hcolon : t.lexeme = .colon)
    (hname : fieldNamed? name = none) :
    MisnamedAt (before ++ ⟨.word name, n⟩ :: t :: after) before name n := by
  refine ⟨⟨t.position, after, by rw [← hcolon]⟩, fun field hfield => ?_⟩
  rw [fieldNamed?_eq_some_iff.mpr hfield] at hname
  exact absurd hname (by simp)

/-- Words before a colon that have been read name fields, so the first word that does not is not
among them. -/
lemma length_le_of_misnamedAt {ts other : List Token} {name : String} {n : Nat}
    (hbegin : before <+: ts) (hrun : Parse.run (.operand .nothing []) before = .ok s)
    (h : MisnamedAt ts other name n) : before.length ≤ other.length + 1 := by
  obtain ⟨⟨c, after, rfl⟩, hname⟩ := h
  by_contra hlong
  have hread : other ++ [⟨.word name, n⟩, ⟨.colon, c⟩] <+: before := by
    refine List.prefix_of_prefix_length_le ⟨after, by simp⟩ hbegin ?_
    simp only [List.length_append, List.length_cons, List.length_nil]
    omega
  obtain ⟨rest, rfl⟩ := hread
  obtain ⟨s', hrun', -⟩ := Parse.run_append_inv hrun
  obtain ⟨field, hfield⟩ := Parse.names_of_run hrun'
  exact hname field hfield

end

/-- **The error of a text with tokens points at an obstacle.** It says that the query is empty
exactly if there are no tokens. The error of an unknown field points at the first word before a
colon that names no field; all others point at the first token, the end of the text being the last
one, that cannot follow the tokens before it in any query. What the text holds before that place is
the beginning of a query. -/
theorem parse_fails_at_obstacle {text : String} {ts : List Token} {e : ParseError}
    (htokens : tokenize text = .ok ts) (herror : parse text = .error e) :
    (e = .empty ↔ ts = []) ∧
    (e ≠ .empty → (∀ name n, e ≠ .unknownField name n) →
      ∃ before found, BlockedAt text ts before found e.position ∧
        ∀ before' found' n, BlockedAt text ts before' found' n →
          before' = before ∧ found' = found ∧ n = e.position) ∧
    ∀ name n, e = .unknownField name n → ∃ before, MisnamedAt ts before name n ∧
      (∀ other name' m, MisnamedAt ts other name' m → before.length ≤ other.length) ∧
      CompletableAt text n before := by
  rw [parse_of_tokenize htokens] at herror
  by_cases hts : ts = []
  · subst hts
    obtain rfl := Except.error.inj herror
    exact ⟨by simp, fun h => absurd rfl h, fun name n h => absurd h (by simp)⟩
  rw [parseTokens_of_ne_nil hts, Parse.result] at herror
  cases hrun : Parse.run (.operand .nothing []) ts with
  | ok s =>
      rw [hrun] at herror
      obtain ⟨wanted, rfl⟩ := Parse.finish_inv herror
      have hblocked := blockedAt_of_finish htokens hts hrun herror
      exact ⟨by simp [hts], fun _ _ => ⟨ts, none, hblocked, fun _ _ _ h => hblocked.unique h⟩,
        fun name n h => absurd h (by simp)⟩
  | error e' =>
      rw [hrun] at herror
      obtain rfl := Except.error.inj herror
      obtain ⟨before, t, after, s, rfl, hbefore, hstep⟩ := Parse.run_inv hrun
      rcases Parse.step_inv hstep with
        ⟨wanted, rfl⟩ | ⟨w, m, pending, outer, rfl, hcolon, hw, rfl⟩
      · have hblocked := blockedAt_of_step htokens hbefore hstep
        exact ⟨by simp, fun _ _ => ⟨before, _, hblocked, fun _ _ _ h => hblocked.unique h⟩,
          fun name n h => absurd h (by simp)⟩
      · obtain ⟨earlier, s', rfl, hearlier⟩ := Parse.eq_concat_of_run_eq_word hbefore
        refine ⟨by simp, fun _ h => absurd rfl (h w m), fun name n h => ?_⟩
        obtain ⟨rfl, rfl⟩ := ParseError.unknownField.inj h
        rw [List.append_assoc, List.singleton_append] at htokens hts ⊢
        refine ⟨earlier, misnamedAt_of_step hcolon hw, fun other name' k hother => ?_,
          completableAt_of_run (hasLexemes_split htokens).1 hearlier⟩
        have hle := length_le_of_misnamedAt ⟨t :: after, by simp⟩ hbefore hother
        rw [List.length_append, List.length_singleton] at hle
        omega

/-- A filter without its value before a closing parenthesis, and a word that names no field behind a
filter that does. -/
theorem parse_fails_at_obstacle_of_open_group :
    parse "(a not type:) or b" = .error (.mismatch .term (some .rightParen) 12) ∧
      (∃ before, BlockedAt "(a not type:) or b" [⟨.leftParen, 0⟩, ⟨.word "a", 1⟩, ⟨.not "not", 3⟩,
        ⟨.word "type", 7⟩, ⟨.colon, 11⟩, ⟨.rightParen, 12⟩, ⟨.or "or", 14⟩, ⟨.word "b", 17⟩]
        before (some .rightParen) 12) ∧
      parse "(type:a kind:b" = .error (.unknownField "kind" 8) ∧
      ∃ before, MisnamedAt [⟨.leftParen, 0⟩, ⟨.word "type", 1⟩, ⟨.colon, 5⟩, ⟨.word "a", 6⟩,
          ⟨.word "kind", 8⟩, ⟨.colon, 12⟩, ⟨.word "b", 13⟩] before "kind" 8 ∧
        CompletableAt "(type:a kind:b" 8 before := by
  have htokens : tokenize "(a not type:) or b" = .ok [⟨.leftParen, 0⟩, ⟨.word "a", 1⟩,
      ⟨.not "not", 3⟩, ⟨.word "type", 7⟩, ⟨.colon, 11⟩, ⟨.rightParen, 12⟩, ⟨.or "or", 14⟩,
      ⟨.word "b", 17⟩] := rfl
  have htokens' : tokenize "(type:a kind:b" = .ok [⟨.leftParen, 0⟩, ⟨.word "type", 1⟩, ⟨.colon, 5⟩,
      ⟨.word "a", 6⟩, ⟨.word "kind", 8⟩, ⟨.colon, 12⟩, ⟨.word "b", 13⟩] := rfl
  have herror : parse "(a not type:) or b" = .error (.mismatch .term (some .rightParen) 12) := rfl
  have herror' : parse "(type:a kind:b" = .error (.unknownField "kind" 8) := rfl
  obtain ⟨-, hblocked, -⟩ := parse_fails_at_obstacle htokens herror
  obtain ⟨-, -, hmisnamed⟩ := parse_fails_at_obstacle htokens' herror'
  obtain ⟨before, found, hat, -⟩ := hblocked (by simp) (by simp)
  obtain ⟨before', hword, -, hcompletable⟩ := hmisnamed "kind" 8 rfl
  have hlength : "(a not type:) or b".length = 18 := rfl
  have hmember : (found, 12) ∈ items _ _ := hat.stands.subset (by simp [ParseError.position])
  obtain rfl : found = some .rightParen := by simpa [items, Token.item, hlength] using hmember
  exact ⟨herror, ⟨before, hat⟩, herror', before', hword, hcompletable⟩

end EntityGraph.Query
