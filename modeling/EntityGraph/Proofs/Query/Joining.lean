import EntityGraph.Proofs.Query.Rendering
/-!
Query texts inside longer ones.

A text that has tokens keeps them when it is put between other pieces, provided that the character
after it ends a word. So texts of queries can be put into parentheses and joined by operators, and
the derivation of the joined text is made of the derivations of its parts.

* `Scan.run_shift`: scanning from a later offset moves the offsets and changes nothing else.
* `HasLexemes`: the lexemes of a text; `HasLexemes.lexes_concat` and `HasLexemes.prepend` put a text
  before and after other pieces.
* `Derivation.join`: two chains of disjuncts, one after the other. The meaning of the joined chain
  associates to the left through both parts, and `holds_disjuncts` says that for its truth value
  this is no matter.
* `parse_grouped`, `parse_not_grouped`, `parse_and_grouped`, `parse_beside_grouped`: texts in
  parentheses. `exists_parse_or`: texts with `OR` between them, with or without parentheses.
-/

namespace EntityGraph.Query

/-! ### Scanning from a later offset -/

/-- A token that starts later. -/
def Token.shift (k : Nat) (t : Token) : Token := { t with position := t.position + k }

/-- An error that points to a later offset. -/
def ScanError.shift (k : Nat) : ScanError → ScanError
  | unexpected c n => unexpected c (n + k)
  | unterminated n => unterminated (n + k)

namespace Scan

/-- The scanner in the middle of something that has started later. -/
def shift (k : Nat) : Scan → Scan
  | between => between
  | word origin read => word (origin + k) read
  | quoted origin read => quoted (origin + k) read
  | escape origin read => escape (origin + k) read

/-- The same outcome at a later offset. -/
def shiftOutcome {α : Type} (move : α → α) (k : Nat) : Except ScanError α → Except ScanError α
  | .ok r => .ok (move r)
  | .error e => .error (e.shift k)

/-- The same tokens and the same state at a later offset. -/
def shiftStep (k : Nat) (r : List Token × Scan) : List Token × Scan :=
  (r.1.map (Token.shift k), r.2.shift k)

lemma start_shift (k n : Nat) (c : Char) :
    start (n + k) c = shiftOutcome (shiftStep k) k (start n c) := by
  unfold start
  split_ifs <;> rfl

lemma step_shift (s : Scan) (k n : Nat) (c : Char) :
    (s.shift k).step (n + k) c = shiftOutcome (shiftStep k) k (s.step n c) := by
  cases s with
  | between => exact start_shift k n c
  | word origin read =>
      rw [shift, step, step]
      by_cases hword : isWordChar c = true
      · rw [if_pos hword, if_pos hword]
        rfl
      · rw [if_neg hword, if_neg hword, start_shift]
        cases start n c <;> rfl
  | quoted origin read =>
      rw [shift, step, step]
      split_ifs <;> rfl
  | escape origin read =>
      rw [shift, step, step]
      split_ifs <;> rfl

lemma finish_shift (s : Scan) (k : Nat) :
    (s.shift k).finish = shiftOutcome (List.map (Token.shift k)) k s.finish := by
  cases s <;> rfl

/-- **Scanning from a later offset** moves the offsets and changes nothing else. -/
theorem run_shift (s : Scan) (k n : Nat) (cs : List Char) :
    (s.shift k).run (n + k) cs = shiftOutcome (List.map (Token.shift k)) k (s.run n cs) := by
  induction cs generalizing s n with
  | nil => exact finish_shift s k
  | cons c cs ih =>
      rw [run, run, step_shift]
      cases s.step n c with
      | error e => rfl
      | ok r =>
          have hnext := ih r.2 (n + 1)
          rw [Nat.add_right_comm] at hnext
          show (do
            let more ← (r.2.shift k).run (n + k + 1) cs
            return r.1.map (Token.shift k) ++ more) = _
          rw [hnext]
          show _ = shiftOutcome _ k (do
            let more ← r.2.run (n + 1) cs
            return r.1 ++ more)
          cases r.2.run (n + 1) cs with
          | error e => rfl
          | ok more =>
              show Except.ok _ = Except.ok _
              rw [List.map_append]

/-- A character that belongs to no word and leads to no state of its own completes what could be
completed at the end of the text. -/
lemma step_of_finish {s : Scan} {n : Nat} {c : Char} {tokens more : List Token}
    (hfinish : s.finish = .ok tokens) (hc : isWordChar c = false)
    (hstart : start n c = .ok (more, between)) : s.step n c = .ok (tokens ++ more, between) := by
  cases s with
  | between =>
      obtain rfl := Except.ok.inj hfinish
      exact hstart
  | word origin read =>
      obtain rfl := Except.ok.inj hfinish
      rw [step, if_neg (by simp [hc]), hstart]
      rfl
  | quoted origin read => exact absurd hfinish (by simp [finish])
  | escape origin read => exact absurd hfinish (by simp [finish])

end Scan

/-! ### The lexemes of a text -/

/-- A text has tokens of these lexemes. -/
def HasLexemes (text : String) (w : List Lexeme) : Prop :=
  ∃ tokens, tokenize text = .ok tokens ∧ tokens.map Token.lexeme = w

/-- A text is a query if its lexemes have a derivation. -/
lemma parse_eq_ok_iff {text : String} {q : Query} :
    parse text = .ok q ↔ ∃ d : Derivation .disjunction, HasLexemes text d.yield ∧ d.meaning = q := by
  cases htokens : tokenize text with
  | error e =>
      have hparse : parse text = .error (.unreadable e) := by simp only [parse, htokens]
      simp [hparse, HasLexemes, htokens]
  | ok tokens =>
      rw [parse_of_tokenize htokens, parseTokens_eq_ok_iff]
      simp only [HasLexemes, htokens, Except.ok.injEq, exists_eq_left', eq_comm]

namespace HasLexemes

variable {text more : String} {w v : List Lexeme} {cs : List Char} {c : Char}

/-- Wherever a text with tokens stands, its characters lead to a state in which the text could
end. -/
lemma feed (h : HasLexemes text w) (n : Nat) : ∃ tokens last rest,
    Scan.between.feed n text.toList = .ok (tokens, last) ∧ last.finish = .ok rest ∧
      (tokens ++ rest).map Token.lexeme = w := by
  obtain ⟨all, hall, rfl⟩ := h
  have hrun := Scan.run_shift .between n 0 text.toList
  rw [Nat.zero_add, show Scan.between.run 0 text.toList = .ok all from hall] at hrun
  rw [show Scan.between.shift n = .between from rfl, Scan.run_eq_feed] at hrun
  cases hfeed : Scan.between.feed n text.toList with
  | error e =>
      rw [hfeed] at hrun
      exact absurd hrun (by simp [Except.bind, Scan.shiftOutcome])
  | ok r =>
      obtain ⟨tokens, last⟩ := r
      rw [hfeed] at hrun
      cases hfinish : last.finish with
      | error e =>
          simp only [Except.bind, hfinish] at hrun
          exact absurd hrun (by simp [Except.map, Scan.shiftOutcome])
      | ok rest =>
          simp only [Except.bind, hfinish] at hrun
          refine ⟨tokens, last, rest, rfl, hfinish, ?_⟩
          have hmoved : tokens ++ rest = all.map (Token.shift n) := Except.ok.inj hrun
          rw [hmoved, List.map_map]
          rfl

/-- A text and a character that ends it. -/
lemma lexes_concat (h : HasLexemes text w) (hc : isWordChar c = false) (hv : Lexes [c] v) :
    Lexes (text.toList ++ [c]) (w ++ v) := by
  intro n
  obtain ⟨tokens, last, rest, hfeed, hfinish, rfl⟩ := h.feed n
  obtain ⟨more, hmore, rfl⟩ := hv (n + text.toList.length)
  have hstart : Scan.start (n + text.toList.length) c = .ok (more, .between) := by
    simp only [Scan.feed, Scan.step] at hmore
    cases hs : Scan.start (n + text.toList.length) c with
    | error e =>
        rw [hs] at hmore
        exact absurd hmore (by simp [Except.bind])
    | ok r =>
        rw [hs] at hmore
        have hnone : (r.1 ++ [], r.2) = (more, Scan.between) := Except.ok.inj hmore
        rw [← hnone, List.append_nil]
  refine ⟨tokens ++ (rest ++ more), ?_, by simp⟩
  rw [Scan.feed_append, hfeed]
  simp only [Except.bind, Scan.feed, Scan.step_of_finish hfinish hc hstart, Except.map,
    List.append_nil]

/-- A piece with a text after it. -/
lemma prepend (h : Lexes cs w) (h' : HasLexemes text v) (htext : more.toList = cs ++ text.toList) :
    HasLexemes more (w ++ v) := by
  obtain ⟨tokens, hfeed, rfl⟩ := h 0
  obtain ⟨all, hall, rfl⟩ := h'
  have hrun := Scan.run_shift .between cs.length 0 text.toList
  rw [show Scan.between.run 0 text.toList = .ok all from hall] at hrun
  refine ⟨tokens ++ all.map (Token.shift cs.length), ?_, ?_⟩
  · rw [tokenize, htext, Scan.run_append, hfeed]
    show ((Scan.between.shift cs.length).run (0 + cs.length) text.toList).map _ = _
    rw [hrun]
    rfl
  · rw [List.map_append, List.map_map]
    rfl

end HasLexemes

/-! ### Joined derivations -/

namespace Derivation

/-- Two chains of disjuncts, one after the other. -/
def join : Derivation .disjuncts → Derivation .disjuncts → Derivation .disjuncts
  | noDisjunct, e => e
  | disjunct spelling next rest, e => disjunct spelling next (rest.join e)

lemma yield_join (d e : Derivation .disjuncts) : (d.join e).yield = d.yield ++ e.yield := by
  fun_induction join d e with
  | case1 e => rfl
  | case2 spelling next rest e ih =>
      rw [yield, ih, yield, List.cons_append, List.append_assoc]

lemma meaning_join (d e : Derivation .disjuncts) (l : Query) :
    (d.join e).meaning l = e.meaning (d.meaning l) := by
  fun_induction join d e generalizing l with
  | case1 e => rfl
  | case2 spelling next rest e ih => exact ih (.or l next.meaning)

/-- A chain of disjuncts holds if what stands before it holds, or else its own beginning with the
rest of it. -/
lemma holds_disjuncts (truth : Term → Bool) : ∀ (d : Derivation .disjuncts) (l x : Query),
    (d.meaning (.or l x)).holds truth = (l.holds truth || (d.meaning x).holds truth)
  | noDisjunct, _, _ => rfl
  | disjunct _ next rest, l, x => by
      show (rest.meaning (.or (.or l x) next.meaning)).holds truth
        = (l.holds truth || (rest.meaning (.or x next.meaning)).holds truth)
      rw [holds_disjuncts truth rest, holds_disjuncts truth rest, Query.holds, Bool.or_assoc]

end Derivation

/-! ### Joined texts -/

/-- A text in parentheses. -/
def grouped (text : String) : String := "(" ++ text ++ ")"

variable {text t₁ t₂ : String} {w : List Lexeme} {q q₁ q₂ : Query}

lemma toList_grouped (text : String) : (grouped text).toList = ['('] ++ (text.toList ++ [')']) := by
  rw [grouped, String.toList_append, String.toList_append, List.append_assoc]
  rfl

lemma lexes_grouped (h : HasLexemes text w) :
    Lexes (grouped text).toList (.leftParen :: (w ++ [.rightParen])) := by
  rw [toList_grouped]
  exact lexes_leftParen.append (h.lexes_concat rfl lexes_rightParen)

/-- A text with the lexemes of a derivation is the query that the derivation means. -/
lemma parse_of_lexes {d : Derivation .disjunction} (h : Lexes text.toList d.yield) :
    parse text = .ok d.meaning := parse_eq_ok_iff.mpr ⟨d, h.tokenize, rfl⟩

/-- A text in parentheses is the query that it is without them. -/
theorem parse_grouped (h : parse text = .ok q) : parse (grouped text) = .ok q := by
  obtain ⟨d, hd, rfl⟩ := parse_eq_ok_iff.mp h
  refine parse_of_lexes
    (d := .disjunction (.conjunction (.primary (.group d)) .noConjunct) .noDisjunct) ?_
  simpa [Derivation.yield] using lexes_grouped hd

/-- A negated text in parentheses. -/
theorem parse_not_grouped (h : parse text = .ok q) :
    parse ("NOT " ++ grouped text) = .ok (.not q) := by
  obtain ⟨d, hd, rfl⟩ := parse_eq_ok_iff.mp h
  refine parse_of_lexes (d := .disjunction
    (.conjunction (.negation "NOT" (.primary (.group d))) .noConjunct) .noDisjunct) ?_
  rw [String.toList_append]
  simpa [Derivation.yield] using lexes_not.append (lexes_grouped hd)

/-- Two texts in parentheses with `AND` between them. -/
theorem parse_and_grouped (h₁ : parse t₁ = .ok q₁) (h₂ : parse t₂ = .ok q₂) :
    parse (grouped t₁ ++ " AND " ++ grouped t₂) = .ok (.and q₁ q₂) := by
  obtain ⟨d, hd, rfl⟩ := parse_eq_ok_iff.mp h₁
  obtain ⟨e, he, rfl⟩ := parse_eq_ok_iff.mp h₂
  refine parse_of_lexes (d := .disjunction (.conjunction (.primary (.group d))
    (.conjunct "AND" (.primary (.group e)) .noConjunct)) .noDisjunct) ?_
  rw [String.toList_append, String.toList_append]
  simpa [Derivation.yield] using ((lexes_grouped hd).append lexes_and).append (lexes_grouped he)

lemma lexes_blank : Lexes " ".toList [] := fun _ => ⟨_, rfl, rfl⟩

/-- Two texts in parentheses side by side. -/
theorem parse_beside_grouped (h₁ : parse t₁ = .ok q₁) (h₂ : parse t₂ = .ok q₂) :
    parse (grouped t₁ ++ " " ++ grouped t₂) = .ok (.and q₁ q₂) := by
  obtain ⟨d, hd, rfl⟩ := parse_eq_ok_iff.mp h₁
  obtain ⟨e, he, rfl⟩ := parse_eq_ok_iff.mp h₂
  refine parse_of_lexes (d := .disjunction (.conjunction (.primary (.group d))
    (.juxtaposed (.primary (.group e)) .noConjunct)) .noDisjunct) ?_
  rw [String.toList_append, String.toList_append]
  simpa [Derivation.yield] using ((lexes_grouped hd).append lexes_blank).append (lexes_grouped he)

lemma lexes_or_blank : Lexes "OR ".toList [.or "OR"] := fun _ => ⟨_, rfl, rfl⟩

/-- **Two texts with `OR` between them**, with or without parentheses around each of them: the
disjuncts of both form one chain, which holds if one of the two queries does. -/
theorem exists_parse_or (h₁ : parse t₁ = .ok q₁) (h₂ : parse t₂ = .ok q₂) :
    ∃ q, parse (t₁ ++ " OR " ++ t₂) = .ok q ∧
      ∀ truth, q.holds truth = (q₁.holds truth || q₂.holds truth) := by
  obtain ⟨d, hd, rfl⟩ := parse_eq_ok_iff.mp h₁
  obtain ⟨e, he, rfl⟩ := parse_eq_ok_iff.mp h₂
  cases d with
  | disjunction first rest =>
      cases e with
      | disjunction next more =>
          let joined : Derivation .disjunction :=
            .disjunction first (rest.join (.disjunct "OR" next more))
          refine ⟨joined.meaning, parse_eq_ok_iff.mpr ⟨joined, ?_, rfl⟩, fun truth => ?_⟩
          · have hleft := (hd.lexes_concat (c := ' ') rfl lexes_blank).append lexes_or_blank
            have hjoined : HasLexemes (t₁ ++ " OR " ++ t₂) _ := he.prepend hleft (by simp)
            simpa [joined, Derivation.yield, Derivation.yield_join] using hjoined
          · have hmeaning : joined.meaning
                = more.meaning (.or (rest.meaning first.meaning) next.meaning) :=
              Derivation.meaning_join rest (.disjunct "OR" next more) first.meaning
            rw [hmeaning]
            exact Derivation.holds_disjuncts truth more _ _

end EntityGraph.Query
