import EntityGraph.Proofs.Query.Joining
import EntityGraph.Proofs.Query.Layout
/-!
Two operands side by side and two operands with `and` between them.

A token that can end an operand leaves a complete operand behind, wherever it stands and whatever is
still open around it. From there, a token that begins an operand is read in the same way with the
keyword and without it. So the keyword can be put in and left out at every such place, also in the
middle of a group, after negations and after filters, and in texts that are no queries.

* `closes`: the lexemes that can end an operand. `Parse.exists_completed_of_run` says what they
  leave behind.
* `parseTokens_insert_and`: with the keyword and without it, tokens have the same outcome, errors
  included.
* `exists_layout_of_tokenize`, `hasLexemes_split`: a text can be cut where one of its tokens begins.
* `parse_with_and_iff`: the same for lexemes, for texts, and for a keyword that is put into a text.
-/

namespace EntityGraph.Query

/-- The lexemes that can end an operand. -/
def closes : Lexeme → Bool
  | .word _ | .quoted _ | .rightParen => true
  | _ => false

/-! ### Outcomes with and without the keyword -/

namespace Parse

variable {s s' : Parse} {c : Completed} {t : Token} {ts us : List Token}

/-- Where an operand has to follow, a token that can end one is one. -/
lemma exists_completed_of_stepOperand {pending : Pending} {outer : List Pending}
    (h : stepOperand pending outer t = .ok s') (ht : closes t.lexeme = true) :
    ∃ c, s'.completed? = some c := by
  rw [stepOperand] at h
  cases hl : t.lexeme with
  | word w =>
      rw [hl] at h
      obtain rfl := Except.ok.inj h
      exact ⟨_, rfl⟩
  | quoted w =>
      rw [hl] at h
      obtain rfl := Except.ok.inj h
      exact ⟨_, rfl⟩
  | rightParen =>
      rw [hl] at h
      exact absurd h (by simp)
  | leftParen | colon | and _ | or _ | not _ => simp [hl, closes] at ht

/-- After a complete operand, a token that can end one ends the next one, or closes a group. -/
lemma exists_completed_of_stepComplete (h : stepComplete c t = .ok s')
    (ht : closes t.lexeme = true) : ∃ c', s'.completed? = some c' := by
  cases hl : t.lexeme with
  | word _ | quoted _ =>
      rw [stepComplete_of_opens (by rw [hl]; rfl)] at h
      exact exists_completed_of_stepOperand h ht
  | rightParen =>
      rw [stepComplete, hl] at h
      cases houter : c.outer with
      | nil =>
          simp only [houter] at h
          exact absurd h (by simp)
      | cons pending outer =>
          simp only [houter] at h
          obtain rfl := Except.ok.inj h
          exact ⟨_, rfl⟩
  | leftParen | colon | and _ | or _ | not _ => simp [hl, closes] at ht

/-- A token that can end an operand leaves a complete operand behind. -/
lemma exists_completed_of_step (h : s.step t = .ok s') (ht : closes t.lexeme = true) :
    ∃ c, s'.completed? = some c := by
  cases s with
  | operand pending outer => exact exists_completed_of_stepOperand h ht
  | complete c => exact exists_completed_of_stepComplete h ht
  | word w n pending outer =>
      have hcolon : t.lexeme ≠ .colon := by
        intro hcolon
        simp [hcolon, closes] at ht
      rw [step_of_completed rfl hcolon] at h
      exact exists_completed_of_stepComplete h ht
  | value field pending outer =>
      rw [step] at h
      cases hl : t.lexeme with
      | word w =>
          rw [hl] at h
          obtain rfl := Except.ok.inj h
          exact ⟨_, rfl⟩
      | quoted w =>
          rw [hl] at h
          obtain rfl := Except.ok.inj h
          exact ⟨_, rfl⟩
      | rightParen =>
          rw [hl] at h
          exact absurd h (by simp)
      | leftParen | colon | and _ | or _ | not _ => simp [hl, closes] at ht

/-- **Whatever is open before them, tokens whose last one can end an operand leave a complete
operand behind**, if they can be read at all. -/
theorem exists_completed_of_run (h : run s ts = .ok s')
    (hlast : ∃ t ∈ ts.getLast?, closes t.lexeme = true) : ∃ c, s'.completed? = some c := by
  obtain ⟨t, ht, hcloses⟩ := hlast
  obtain ⟨before, rfl⟩ := List.getLast?_eq_some_iff.mp ht
  rw [run_append] at h
  cases hbefore : run s before with
  | error e =>
      rw [hbefore] at h
      exact absurd h (by simp [Except.bind])
  | ok s₁ =>
      rw [hbefore] at h
      have hstep : s₁.step t = .ok s' := by
        cases hs : s₁.step t with
        | error e => simp [Except.bind, run_cons, hs] at h
        | ok s₂ => simpa [Except.bind, run_cons, hs, run] using h
      exact exists_completed_of_step hstep hcloses

/-- After a complete operand, the keyword makes no difference to what begins with an operand. -/
lemma run_and_cons (hs : s.completed? = some c) {spelling : String} {n : Nat}
    (hfirst : ∃ t ∈ us.head?, Derivation.opens t.lexeme = true) :
    run s (⟨.and spelling, n⟩ :: us) = run s us := by
  obtain ⟨t, ht, hopens⟩ := hfirst
  obtain ⟨us, rfl⟩ := List.head?_eq_some_iff.mp ht
  have hand : s.step ⟨.and spelling, n⟩
      = .ok (operand ⟨c.disjunct, some c.conjunction, 0⟩ c.outer) := by
    rw [step_of_completed hs (by simp), stepComplete]
  rw [run_cons_of_opens hs hopens, run_cons, hand]
  rfl

end Parse

/-- **Side by side or with `and`**: the outcome for some tokens is the same, whether it is a query
or an error. -/
theorem parseTokens_insert_and {ts us : List Token}
    (hlast : ∃ t ∈ ts.getLast?, closes t.lexeme = true)
    (hfirst : ∃ t ∈ us.head?, Derivation.opens t.lexeme = true) (spelling : String) (n stop : Nat) :
    parseTokens (ts ++ ⟨.and spelling, n⟩ :: us) stop = parseTokens (ts ++ us) stop := by
  have hne : ts ≠ [] := by
    rintro rfl
    simp at hlast
  have hrun : Parse.run (.operand .nothing []) (ts ++ ⟨.and spelling, n⟩ :: us)
      = Parse.run (.operand .nothing []) (ts ++ us) := by
    rw [Parse.run_append, Parse.run_append]
    cases hts : Parse.run (.operand .nothing []) ts with
    | error e => rfl
    | ok s =>
        obtain ⟨c, hc⟩ := Parse.exists_completed_of_run hts hlast
        exact Parse.run_and_cons hc hfirst
  rw [parseTokens, parseTokens, hrun]
  simp [hne]

/-! ### Texts that are cut in two -/

/-- Tokens of the same lexemes are the same query, wherever they stand. -/
lemma parseTokens_congr {ts us : List Token} (h : ts.map Token.lexeme = us.map Token.lexeme)
    (stop stop' : Nat) (q : Query) :
    parseTokens ts stop = .ok q ↔ parseTokens us stop' = .ok q := by
  rw [parseTokens_eq_ok_iff, parseTokens_eq_ok_iff, h]

/-- A text with tokens has a layout with these tokens. -/
lemma exists_layout_of_tokenize {text : String} {ts : List Token} (h : tokenize text = .ok ts) :
    ∃ y : Layout, y.chars = text.toList ∧ y.tokens = ts := by
  obtain ⟨y, hy⟩ := Scan.exists_layout_of_run h
  have htokens : tokenize text = .ok y.tokens := by
    rw [tokenize, ← hy]
    exact Scan.run_layout y.apart y.blank 0
  exact ⟨y, hy, Except.ok.inj (htokens.symm.trans h)⟩

lemma map_lexeme_tokensFrom (n : Nat) (ps : List Piece) :
    (tokensFrom n ps).map Token.lexeme = ps.map Piece.lexeme := by
  induction ps generalizing n with
  | nil => rfl
  | cons p ps ih => rw [tokensFrom, List.map_cons, List.map_cons, ih]

/-- The characters of pieces have their lexemes. -/
lemma hasLexemes_charsOf {ps : List Piece} {trailing : List Char} (hps : ps.IsChain Piece.Apart)
    (hblank : ∀ c ∈ trailing, Text.isBlank c = true) :
    HasLexemes (String.ofList (charsOf ps trailing)) (ps.map Piece.lexeme) := by
  refine ⟨tokensFrom 0 ps, ?_, map_lexeme_tokensFrom 0 ps⟩
  rw [tokenize, String.toList_ofList]
  exact Scan.run_layout hps hblank 0

/-- Some of the first tokens are those of some of the first pieces. -/
lemma exists_append_of_tokensFrom {n : Nat} {pieces : List Piece} {ts us : List Token}
    (h : tokensFrom n pieces = ts ++ us) :
    ∃ ps qs, pieces = ps ++ qs ∧ tokensFrom n ps = ts ∧
      tokensFrom (n + (ps.flatMap Piece.chars).length) qs = us := by
  induction ts generalizing n pieces with
  | nil => exact ⟨[], pieces, rfl, rfl, h⟩
  | cons t ts ih =>
      cases pieces with
      | nil => exact absurd h (by simp [tokensFrom])
      | cons p pieces =>
          rw [tokensFrom, List.cons_append, List.cons.injEq] at h
          obtain ⟨rfl, htail⟩ := h
          obtain ⟨ps, qs, rfl, rfl, hqs⟩ := ih htail
          refine ⟨p :: ps, qs, rfl, rfl, ?_⟩
          rw [← hqs, List.flatMap_cons, List.length_append, Nat.add_assoc]

/-- **A text can be cut where one of its tokens begins**: the two parts have the tokens before and
from there on. -/
theorem hasLexemes_split {text : String} {ts us : List Token} {t : Token}
    (h : tokenize text = .ok (ts ++ t :: us)) :
    HasLexemes (String.ofList (text.toList.take t.position)) (ts.map Token.lexeme) ∧
      HasLexemes (String.ofList (text.toList.drop t.position)) ((t :: us).map Token.lexeme) := by
  obtain ⟨y, hchars, htokens⟩ := exists_layout_of_tokenize h
  obtain ⟨ps, qs, hpieces, hps, hqs⟩ := exists_append_of_tokensFrom htokens
  cases qs with
  | nil => exact absurd hqs (by simp [tokensFrom])
  | cons q qs =>
      obtain ⟨hq, hqs'⟩ := List.cons.inj hqs
      -- the white space before the token stays with the first part
      let bare : Piece := { q with gap := [], blank := fun _ hc => absurd hc List.not_mem_nil }
      have happart : (ps ++ q :: qs).IsChain Piece.Apart := hpieces ▸ y.apart
      have hbare : (bare :: qs).IsChain Piece.Apart := by
        cases qs with
        | nil => exact List.isChain_singleton bare
        | cons r qs =>
            obtain ⟨hqr, hqs⟩ := List.isChain_cons_cons.mp happart.right_of_append
            exact List.isChain_cons_cons.mpr ⟨hqr, hqs⟩
      have hcut : text.toList = charsOf ps q.gap ++ charsOf (bare :: qs) y.trailing := by
        rw [← hchars, Layout.chars, hpieces]
        simp [charsOf, Piece.chars, bare]
      have hlength : t.position = (charsOf ps q.gap).length := by
        rw [← hq]
        simp [charsOf]
      have hfirst : (t :: us).map Token.lexeme = (bare :: qs).map Piece.lexeme := by
        rw [← hq, ← hqs', List.map_cons, map_lexeme_tokensFrom, List.map_cons]
      rw [hcut, hlength, List.take_left, List.drop_left, ← hps, map_lexeme_tokensFrom, hfirst]
      exact ⟨hasLexemes_charsOf happart.left_of_append q.blank, hasLexemes_charsOf hbare y.blank⟩

/-- A text with something put into it at an offset. -/
def insertAt (text : String) (n : Nat) (piece : String) : String :=
  String.ofList (text.toList.take n) ++ piece ++ String.ofList (text.toList.drop n)

lemma lexes_and_blank : Lexes "AND ".toList [.and "AND"] := fun _ => ⟨_, rfl, rfl⟩

/-- A keyword that is put in where a token begins comes before this token. -/
lemma hasLexemes_insertAt_and {text : String} {ts us : List Token} {t : Token}
    (h : tokenize text = .ok (ts ++ t :: us)) :
    HasLexemes (insertAt text t.position " AND ")
      (ts.map Token.lexeme ++ .and "AND" :: (t :: us).map Token.lexeme) := by
  obtain ⟨hbefore, hafter⟩ := hasLexemes_split h
  have hleft := (hbefore.lexes_concat (c := ' ') rfl lexes_blank).append lexes_and_blank
  have hjoined : HasLexemes (insertAt text t.position " AND ") _ :=
    hafter.prepend hleft (by simp [insertAt])
  simpa using hjoined

/-! ### The keyword does not matter -/

section

variable {xs ys : List Lexeme} {spelling : String}

/-- Tokens of the same lexemes, once with the keyword and once without it. -/
lemma parseTokens_with_and_iff (hxs : ∃ x ∈ xs.getLast?, closes x = true)
    (hys : ∃ y ∈ ys.head?, Derivation.opens y = true) {ts us : List Token}
    (hts : ts.map Token.lexeme = xs ++ ys)
    (hus : us.map Token.lexeme = xs ++ .and spelling :: ys) (stop stop' : Nat) (q : Query) :
    parseTokens ts stop = .ok q ↔ parseTokens us stop' = .ok q := by
  obtain ⟨ts₁, ts₂, rfl, rfl, rfl⟩ := List.map_eq_append_iff.mp hts
  have hlast : ∃ t ∈ ts₁.getLast?, closes t.lexeme = true := by
    simpa [List.getLast?_map] using hxs
  have hfirst : ∃ t ∈ ts₂.head?, Derivation.opens t.lexeme = true := by
    simpa [List.head?_map] using hys
  have hkeyword : us.map Token.lexeme = (ts₁ ++ ⟨.and spelling, 0⟩ :: ts₂).map Token.lexeme := by
    rw [hus, List.map_append, List.map_cons]
  rw [parseTokens_congr hkeyword stop' stop, parseTokens_insert_and hlast hfirst]

/-- Texts of the same lexemes, once with the keyword and once without it. -/
lemma parse?_with_and (hxs : ∃ x ∈ xs.getLast?, closes x = true)
    (hys : ∃ y ∈ ys.head?, Derivation.opens y = true) {text text' : String}
    (h : HasLexemes text (xs ++ ys)) (h' : HasLexemes text' (xs ++ .and spelling :: ys)) :
    parse? text = parse? text' := by
  obtain ⟨ts, htokens, hts⟩ := h
  obtain ⟨us, htokens', hus⟩ := h'
  have hiff := parseTokens_with_and_iff hxs hys hts hus text.length text'.length
  rw [parse?, parse?, parse_of_tokenize htokens, parse_of_tokenize htokens']
  cases hq : parseTokens ts text.length with
  | ok q => rw [(hiff q).mp hq]
  | error e =>
      cases hq' : parseTokens us text'.length with
      | ok q => exact absurd (hq.symm.trans ((hiff q).mpr hq')) (by simp)
      | error e' => rfl

end

/-- **Juxtaposition is `and`.** Take two lists of lexemes, the first of which ends with a lexeme that
can end an operand and the second of which begins with one that begins an operand; whether groups
are balanced in them does not matter. With the keyword between them and without it they are the same
query or both none, as tokens at whatever offsets and as texts. Hence a text keeps its meaning, and
its search, when the keyword is put in where such a token begins. -/
theorem parse_with_and_iff {xs ys : List Lexeme} (hxs : ∃ x ∈ xs.getLast?, closes x = true)
    (hys : ∃ y ∈ ys.head?, Derivation.opens y = true) (spelling : String) :
    (∀ ts us : List Token, ts.map Token.lexeme = xs ++ ys →
      us.map Token.lexeme = xs ++ .and spelling :: ys →
      ∀ stop stop' q, parseTokens ts stop = .ok q ↔ parseTokens us stop' = .ok q) ∧
    (∀ text text' : String, HasLexemes text (xs ++ ys) →
      HasLexemes text' (xs ++ .and spelling :: ys) → parse? text = parse? text') ∧
    ∀ (text : String) (ts us : List Token) (t : Token), tokenize text = .ok (ts ++ t :: us) →
      ts.map Token.lexeme = xs → (t :: us).map Token.lexeme = ys →
      parse? (insertAt text t.position " AND ") = parse? text ∧
      ∀ limit, Traversal.search (insertAt text t.position " AND ") limit
        = Traversal.search text limit := by
  refine ⟨fun ts us hts hus => parseTokens_with_and_iff hxs hys hts hus,
    fun text text' => parse?_with_and hxs hys, fun text ts us t htokens hts hus => ?_⟩
  have hbeside : HasLexemes text (xs ++ ys) := by
    refine ⟨_, htokens, ?_⟩
    rw [List.map_append, hts, hus]
  have hinserted := hasLexemes_insertAt_and htokens
  rw [hts, hus] at hinserted
  have hsame : parse? (insertAt text t.position " AND ") = parse? text :=
    (parse?_with_and hxs hys hbeside hinserted).symm
  exact ⟨hsame, fun limit => by simp only [Traversal.search, hsame]⟩

/-- The keyword is put into the middle of a group, after a filter and before a negation. -/
theorem parse_with_and_of_group :
    tokenize "(type:a not \"b\") or c"
        = .ok ([⟨.leftParen, 0⟩, ⟨.word "type", 1⟩, ⟨.colon, 5⟩, ⟨.word "a", 6⟩]
          ++ ⟨.not "not", 8⟩ :: [⟨.quoted "b", 12⟩, ⟨.rightParen, 15⟩, ⟨.or "or", 17⟩,
            ⟨.word "c", 20⟩]) ∧
      closes (.word "a") = true ∧ Derivation.opens (.not "not") = true ∧
      insertAt "(type:a not \"b\") or c" 8 " AND " = "(type:a  AND not \"b\") or c" ∧
      parse? "(type:a  AND not \"b\") or c" = parse? "(type:a not \"b\") or c" ∧
      parse? "(type:a not \"b\") or c"
        = some (.or (.and (.term ⟨"type", "a"⟩) (.not (.term ⟨"text", "b"⟩))) (.term ⟨"text", "c"⟩))
      := by
  have htokens : tokenize "(type:a not \"b\") or c"
      = .ok ([⟨.leftParen, 0⟩, ⟨.word "type", 1⟩, ⟨.colon, 5⟩, ⟨.word "a", 6⟩]
        ++ ⟨.not "not", 8⟩ :: [⟨.quoted "b", 12⟩, ⟨.rightParen, 15⟩, ⟨.or "or", 17⟩,
          ⟨.word "c", 20⟩]) := rfl
  have hinserted : insertAt "(type:a not \"b\") or c" 8 " AND "
      = "(type:a  AND not \"b\") or c" := rfl
  obtain ⟨-, -, hinsert⟩ := @parse_with_and_iff
    [.leftParen, .word "type", .colon, .word "a"]
    [.not "not", .quoted "b", .rightParen, .or "or", .word "c"]
    ⟨.word "a", rfl, rfl⟩ ⟨.not "not", rfl, rfl⟩ "AND"
  obtain ⟨hsame, -⟩ := hinsert _ _ _ _ htokens rfl rfl
  exact ⟨htokens, rfl, rfl, hinserted, hinserted ▸ hsame, rfl⟩

end EntityGraph.Query
