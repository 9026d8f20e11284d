import EntityGraph.Query.Basic
import EntityGraph.Query.Token
import Mathlib.Tactic.Common
/-!
Scanning a text piece by piece.

* `Scan.feed`: the tokens that some characters complete, and the state they lead to; `run_eq_feed`
  says that scanning is feeding followed by the end of the text, and `feed_append` that pieces are
  fed one after the other.
* `Lexes`: characters that stand between tokens, complete the tokens of some lexemes and end between
  tokens. Such pieces can be put side by side (`Lexes.append`).
* `Unescapes`: what the characters between two quotes stand for; `feed_of_unescapes` says that they
  are read as that.
-/

namespace EntityGraph.Query

namespace Scan

/-- The tokens completed by some characters from offset `n` on, and the state they lead to. -/
def feed : Scan → Nat → List Char → Except ScanError (List Token × Scan)
  | s, _, [] => .ok ([], s)
  | s, n, c :: rest =>
    (s.step n c).bind fun (tokens, next) =>
      (next.feed (n + 1) rest).map fun (more, last) => (tokens ++ more, last)

/-- Scanning is feeding all characters and then ending the text. -/
lemma run_eq_feed (s : Scan) (n : Nat) (cs : List Char) :
    s.run n cs = (s.feed n cs).bind fun (tokens, last) => last.finish.map (tokens ++ ·) := by
  induction cs generalizing s n with
  | nil =>
      simp only [run, feed, Except.bind]
      cases s.finish <;> rfl
  | cons c rest ih =>
      simp only [run, feed, ih]
      cases s.step n c with
      | error e => rfl
      | ok r =>
          obtain ⟨tokens, next⟩ := r
          simp only [bind, Except.bind]
          cases next.feed (n + 1) rest with
          | error e => rfl
          | ok r' =>
              obtain ⟨more, last⟩ := r'
              simp only [Except.map]
              cases last.finish <;> simp [pure, Except.pure]

/-- Characters are fed one piece after the other. -/
lemma feed_append (s : Scan) (n : Nat) (cs ds : List Char) :
    s.feed n (cs ++ ds) = (s.feed n cs).bind fun (tokens, next) =>
      (next.feed (n + cs.length) ds).map fun (more, last) => (tokens ++ more, last) := by
  induction cs generalizing s n with
  | nil =>
      simp only [List.nil_append, feed, Except.bind, List.length_nil, Nat.add_zero]
      cases s.feed n ds <;> rfl
  | cons c rest ih =>
      simp only [List.cons_append, feed, ih]
      cases s.step n c with
      | error e => rfl
      | ok r =>
          obtain ⟨tokens, next⟩ := r
          simp only [Except.bind]
          cases next.feed (n + 1) rest with
          | error e => rfl
          | ok r' =>
              obtain ⟨more, last⟩ := r'
              simp only [Except.map, List.length_cons]
              rw [show n + 1 + rest.length = n + (rest.length + 1) from by omega]
              cases last.feed (n + (rest.length + 1)) ds <;> simp

/-- A character that completes no token. -/
lemma feed_cons_of_step {s next : Scan} {n : Nat} {c : Char} (h : s.step n c = .ok ([], next))
    (rest : List Char) : s.feed n (c :: rest) = next.feed (n + 1) rest := by
  simp only [feed, h, Except.bind]
  cases next.feed (n + 1) rest <;> rfl

/-- Scanning goes on from where a first piece has led. -/
lemma run_append (s : Scan) (n : Nat) (cs ds : List Char) :
    s.run n (cs ++ ds) = (s.feed n cs).bind fun (tokens, next) =>
      (next.run (n + cs.length) ds).map (tokens ++ ·) := by
  rw [run_eq_feed, feed_append]
  cases s.feed n cs with
  | error e => rfl
  | ok r =>
      simp only [Except.bind, run_eq_feed]
      cases r.2.feed (n + cs.length) ds with
      | error e => rfl
      | ok r' =>
          simp only [Except.map]
          cases r'.2.finish <;> simp

end Scan

/-! ### Quoted values -/

/-- What the characters between two quotes stand for. A backslash protects a quote or a backslash
and is kept before anything else; no quote stands there without one. -/
inductive Unescapes : List Char → List Char → Prop where
  | nil : Unescapes [] []
  | plain {c : Char} {body value : List Char} (hquote : c ≠ '"') (hslash : c ≠ '\\')
      (h : Unescapes body value) : Unescapes (c :: body) (c :: value)
  | escaped {c : Char} {body value : List Char} (hc : c = '"' ∨ c = '\\')
      (h : Unescapes body value) : Unescapes ('\\' :: c :: body) (c :: value)
  | kept {c : Char} {body value : List Char} (hc : ¬(c = '"' ∨ c = '\\'))
      (h : Unescapes body value) : Unescapes ('\\' :: c :: body) ('\\' :: c :: value)

/-- The escaped form of a value stands for it. -/
lemma unescapes_flatMap_escapeChar (value : List Char) :
    Unescapes (value.flatMap escapeChar) value := by
  induction value with
  | nil => exact .nil
  | cons c value ih =>
      rw [List.flatMap_cons, escapeChar]
      by_cases hc : c = '"' ∨ c = '\\'
      · rw [if_pos hc]
        exact .escaped hc ih
      · rw [if_neg hc]
        exact .plain (not_or.mp hc).1 (not_or.mp hc).2 ih

namespace Scan

/-- Between quotes, a backslash leads to a state of its own and completes nothing. -/
lemma feed_backslash (origin n : Nat) (read rest : List Char) :
    (quoted origin read).feed n ('\\' :: rest) = (escape origin read).feed (n + 1) rest :=
  feed_cons_of_step rfl rest

/-- The characters between two quotes are read as the value that they stand for. -/
lemma feed_of_unescapes {body value : List Char} (h : Unescapes body value) (origin n : Nat)
    (read : List Char) :
    (quoted origin read).feed n (body ++ ['"'])
      = .ok ([⟨.quoted (String.ofList (read.reverse ++ value)), origin⟩], between) := by
  induction h generalizing n read with
  | nil => simp [feed, step, Except.bind, Except.map]
  | @plain c body value hquote hslash h ih =>
      have hstep : (quoted origin read).step n c = .ok ([], quoted origin (c :: read)) := by
        rw [step, if_neg hquote, if_neg hslash]
      rw [List.cons_append, feed_cons_of_step hstep, ih]
      simp
  | @escaped c body value hc h ih =>
      have hstep : (escape origin read).step (n + 1) c = .ok ([], quoted origin (c :: read)) := by
        rw [step, if_pos hc]
      rw [List.cons_append, feed_backslash, List.cons_append, feed_cons_of_step hstep, ih]
      simp
  | @kept c body value hc h ih =>
      have hstep : (escape origin read).step (n + 1) c
          = .ok ([], quoted origin (c :: '\\' :: read)) := by
        rw [step, if_neg hc]
      rw [List.cons_append, feed_backslash, List.cons_append, feed_cons_of_step hstep, ih]
      simp

end Scan

/-- Between tokens, these characters complete tokens of these lexemes and end between tokens. -/
def Lexes (cs : List Char) (w : List Lexeme) : Prop :=
  ∀ n, ∃ tokens, Scan.between.feed n cs = .ok (tokens, .between) ∧ tokens.map Token.lexeme = w

/-- Two pieces side by side have the lexemes of both. -/
lemma Lexes.append {cs ds : List Char} {w v : List Lexeme} (h : Lexes cs w) (h' : Lexes ds v) :
    Lexes (cs ++ ds) (w ++ v) := by
  intro n
  obtain ⟨tokens, hfeed, rfl⟩ := h n
  obtain ⟨more, hfeed', rfl⟩ := h' (n + cs.length)
  refine ⟨tokens ++ more, ?_, List.map_append⟩
  rw [Scan.feed_append, hfeed]
  simp only [Except.bind, hfeed', Except.map]

/-- A text that is one such piece has tokens of its lexemes. -/
lemma Lexes.tokenize {text : String} {w : List Lexeme} (h : Lexes text.toList w) :
    ∃ tokens, tokenize text = .ok tokens ∧ tokens.map Token.lexeme = w := by
  obtain ⟨tokens, hfeed, hw⟩ := h 0
  refine ⟨tokens, ?_, hw⟩
  rw [Query.tokenize, Scan.run_eq_feed, hfeed]
  simp [Except.bind, Except.map, Scan.finish]

/-- A value in quotes is one lexeme. -/
lemma lexes_quoteChars (value : String) : Lexes (quoteChars value) [.quoted value] := by
  intro n
  refine ⟨[⟨.quoted value, n⟩], ?_, rfl⟩
  have hstep : Scan.between.step n '"' = .ok ([], .quoted n []) := rfl
  rw [quoteChars, List.cons_append, Scan.feed_cons_of_step hstep,
    Scan.feed_of_unescapes (unescapes_flatMap_escapeChar value.toList)]
  simp

/-- A field and its colon are a word and a colon. -/
lemma lexes_field {field : String} (h : field ∈ filterFields) :
    Lexes (field.toList ++ [':']) [.word field, .colon] := by
  simp only [filterFields, List.mem_cons, List.not_mem_nil, or_false] at h
  rcases h with rfl | rfl | rfl <;> exact fun n => ⟨_, rfl, rfl⟩

end EntityGraph.Query
