import EntityGraph.Proofs.Query.Acceptance
import EntityGraph.Proofs.Query.Scanning
import Mathlib.Data.List.Chain
import Mathlib.Data.List.TakeWhile
/-!
The lexical grammar of query texts.

* `Spells`: the characters that a lexeme is written with. `Denotes` says what a run of word
  characters stands for: an operator if its lower-case form is one, and itself otherwise.
* `Piece`: white space and a lexeme after it. `Layout`: pieces one after the other, with white space
  after the last, in which no two words touch.
* `Scan.run_layout`, `Scan.exists_layout_of_run`: the tokens of a layout are found in its
  characters, and a text with tokens has a layout.
* `Spells.append_inj`, `Layout.chars_injective`: the characters tell the lexemes and the layout.
* `tokenize_eq_ok_iff_layout`: a text has exactly the tokens of its layouts, and has at most one
  layout.
-/

namespace EntityGraph.Query

/-! ### Lexemes and their characters -/

/-- The lower-case forms of the operators that are words. -/
def operatorWords : List String := ["and", "or", "not"]

/-- What a run of word characters stands for. -/
inductive Denotes (s : String) : Lexeme → Prop where
  | and (h : Text.lower s = "and") : Denotes s (.and s)
  | or (h : Text.lower s = "or") : Denotes s (.or s)
  | not (h : Text.lower s = "not") : Denotes s (.not s)
  | word (h : Text.lower s ∉ operatorWords) : Denotes s (.word s)

/-- The characters that are lexemes by themselves. -/
def marks : List (Char × Lexeme) := [('(', .leftParen), (')', .rightParen), (':', .colon)]

/-- The characters that a lexeme is written with. -/
inductive Spells : List Char → Lexeme → Prop where
  | mark {c : Char} {x : Lexeme} (h : (c, x) ∈ marks) : Spells [c] x
  | word {cs : List Char} {x : Lexeme} (hne : cs ≠ []) (hcs : ∀ c ∈ cs, isWordChar c = true)
      (h : Denotes (String.ofList cs) x) : Spells cs x
  | quoted {body : List Char} {value : String} (h : Unescapes body value.toList) :
      Spells ('"' :: (body ++ ['"'])) (.quoted value)

/-- Words and operators that are words. -/
def Lexeme.isWordLike : Lexeme → Bool
  | and _ | or _ | not _ | word _ => true
  | leftParen | rightParen | colon | quoted _ => false

/-- White space and a lexeme after it. -/
@[ext]
structure Piece where
  gap : List Char
  spelling : List Char
  lexeme : Lexeme
  blank : ∀ c ∈ gap, Text.isBlank c = true
  spells : Spells spelling lexeme

namespace Piece

/-- The characters of a piece. -/
def chars (p : Piece) : List Char := p.gap ++ p.spelling

/-- Two words that follow each other have white space between them. -/
def Apart (p q : Piece) : Prop :=
  p.lexeme.isWordLike = true → q.lexeme.isWordLike = true → q.gap ≠ []

end Piece

/-- A text taken apart: pieces one after the other and white space after the last. -/
@[ext]
structure Layout where
  pieces : List Piece
  trailing : List Char
  apart : pieces.IsChain Piece.Apart
  blank : ∀ c ∈ trailing, Text.isBlank c = true

/-- The characters of some pieces and of the white space after them. -/
def charsOf (ps : List Piece) (trailing : List Char) : List Char :=
  ps.flatMap Piece.chars ++ trailing

/-- The tokens of some pieces from offset `n` on, each of them where its lexeme begins. -/
def tokensFrom : Nat → List Piece → List Token
  | _, [] => []
  | n, p :: ps => ⟨p.lexeme, n + p.gap.length⟩ :: tokensFrom (n + p.chars.length) ps

namespace Layout

/-- The characters of a layout. -/
def chars (y : Layout) : List Char := charsOf y.pieces y.trailing

/-- The tokens of a layout. -/
def tokens (y : Layout) : List Token := tokensFrom 0 y.pieces

end Layout

lemma charsOf_cons (p : Piece) (ps : List Piece) (trailing : List Char) :
    charsOf (p :: ps) trailing = p.gap ++ (p.spelling ++ charsOf ps trailing) := by
  simp only [charsOf, Piece.chars, List.flatMap_cons, List.append_assoc]

/-! ### Classes of characters -/

lemma isWordChar_iff {c : Char} : isWordChar c = true ↔
    65 ≤ c.toNat ∧ c.toNat ≤ 90 ∨ 97 ≤ c.toNat ∧ c.toNat ≤ 122 ∨ 48 ≤ c.toNat ∧ c.toNat ≤ 57 ∨
      c = '.' ∨ c = '_' ∨ c = '-' := by
  have hclasses : isWordChar c = ((decide (65 ≤ c.val ∧ c.val ≤ 90) ||
      (decide (97 ≤ c.val) && decide (c.val ≤ 122)) ||
      (decide (48 ≤ c.val) && decide (c.val ≤ 57))) || c == '.' || c == '_' || c == '-') := rfl
  simp only [hclasses, Bool.or_eq_true, Bool.and_eq_true, decide_eq_true_eq, beq_iff_eq, or_assoc]
  rfl

/-- Word characters are visible ASCII characters. -/
lemma toNat_of_isWordChar {c : Char} (hc : isWordChar c = true) :
    33 ≤ c.toNat ∧ c.toNat < 128 := by
  rcases isWordChar_iff.mp hc with h | h | h | rfl | rfl | rfl
  · omega
  · omega
  · omega
  · decide
  · decide
  · decide

/-- No visible ASCII character is white space. -/
lemma not_isBlank_of_toNat {c : Char} (hc : 33 ≤ c.toNat ∧ c.toNat < 128) :
    Text.isBlank c = false := by
  rw [← Bool.not_eq_true, Text.isBlank, Text.inRanges_iff]
  rintro ⟨r, hr, hlow, hhigh⟩
  have hranges : ∀ r ∈ Text.blankRanges, r.2 ≤ 32 ∨ 128 ≤ r.1 := by decide
  have hout := hranges r hr
  omega

lemma not_isWordChar_of_isBlank {c : Char} (hc : Text.isBlank c = true) :
    isWordChar c = false := by
  rw [← Bool.not_eq_true]
  intro hword
  rw [not_isBlank_of_toNat (toNat_of_isWordChar hword)] at hc
  exact absurd hc Bool.false_ne_true

/-- A character that is a lexeme by itself is no white space and belongs to no word. -/
lemma mark_facts {c : Char} {x : Lexeme} (h : (c, x) ∈ marks) :
    Text.isBlank c = false ∧ isWordChar c = false ∧ x.isWordLike = false := by
  simp only [marks, List.mem_cons, Prod.mk.injEq, List.not_mem_nil, or_false] at h
  rcases h with ⟨rfl, rfl⟩ | ⟨rfl, rfl⟩ | ⟨rfl, rfl⟩ <;> decide

/-- One character is one lexeme at most. -/
lemma mark_unique {c : Char} {x x' : Lexeme} (h : (c, x) ∈ marks) (h' : (c, x') ∈ marks) :
    x = x' := by
  simp only [marks, List.mem_cons, Prod.mk.injEq, List.not_mem_nil, or_false] at h h'
  rcases h with ⟨rfl, rfl⟩ | ⟨rfl, rfl⟩ | ⟨rfl, rfl⟩ <;> simpa [eq_comm] using h'

/-! ### Words and operators that are words -/

/-- Over ASCII characters, lower-casing is that of ASCII letters. -/
lemma lowerFrom_of_ascii {before cs : List Char} (hcs : ∀ c ∈ cs, c.toNat < 128) :
    Text.lowerFrom before cs = cs.map Char.toLower := by
  induction cs generalizing before with
  | nil => rfl
  | cons c cs ih =>
      have hc : c.toNat < 128 := hcs c List.mem_cons_self
      have hsigma : c ≠ 'Σ' := by
        rintro rfl
        exact absurd hc (by decide)
      rw [Text.lowerFrom, if_neg hsigma, Text.lowerChar, if_pos hc,
        ih fun d hd => hcs d (List.mem_cons_of_mem c hd)]
      rfl

/-- The scanner tells a run of word characters by its lower-case form. -/
lemma denotes_iff {s : String} (hs : ∀ c ∈ s.toList, isWordChar c = true) {x : Lexeme} :
    Denotes s x ↔ x = Lexeme.ofWord s := by
  have hlower : Text.lower s = Text.lowerAscii s :=
    congrArg String.ofList (lowerFrom_of_ascii fun c hc => (toNat_of_isWordChar (hs c hc)).2)
  constructor
  · intro h
    cases h with
    | and h => rw [Lexeme.ofWord, ← hlower, if_pos h]
    | or h => rw [Lexeme.ofWord, ← hlower, h]; rfl
    | not h => rw [Lexeme.ofWord, ← hlower, h]; rfl
    | word h =>
        simp only [operatorWords, List.mem_cons, List.not_mem_nil, or_false, not_or] at h
        rw [Lexeme.ofWord, ← hlower, if_neg h.1, if_neg h.2.1, if_neg h.2.2]
  · rintro rfl
    rw [Lexeme.ofWord, ← hlower]
    split_ifs with hand hor hnot
    · exact .and hand
    · exact .or hor
    · exact .not hnot
    · exact .word (by simp [operatorWords, hand, hor, hnot])

/-- A word has one meaning. -/
lemma Denotes.unique {s : String} {x x' : Lexeme} (h : Denotes s x) (h' : Denotes s x') : x = x' := by
  cases h <;> cases h' <;> simp_all [operatorWords]

lemma Denotes.isWordLike {s : String} {x : Lexeme} (h : Denotes s x) : x.isWordLike = true := by
  cases h <;> rfl

/-- What a lexeme begins with: no white space, and a word character exactly if it is a word. -/
lemma Spells.exists_cons {cs : List Char} {x : Lexeme} (h : Spells cs x) :
    ∃ c rest, cs = c :: rest ∧ Text.isBlank c = false ∧ isWordChar c = x.isWordLike := by
  cases h with
  | @mark c x h =>
      obtain ⟨hblank, hword, hlike⟩ := mark_facts h
      exact ⟨c, [], rfl, hblank, by rw [hword, hlike]⟩
  | word hne hcs h =>
      obtain ⟨c, rest, rfl⟩ := List.exists_cons_of_ne_nil hne
      have hc : isWordChar c = true := hcs c List.mem_cons_self
      exact ⟨c, rest, rfl, not_isBlank_of_toNat (toNat_of_isWordChar hc),
        by rw [hc, h.isWordLike]⟩
  | quoted h => exact ⟨'"', _, rfl, by decide, rfl⟩

/-! ### From a layout to its tokens -/

/-- A run of characters of a class does not go on with these characters. -/
def Ends (p : Char → Bool) (cs : List Char) : Prop := ∀ c ∈ cs.head?, p c = false

lemma ends_dropWhile (p : Char → Bool) (cs : List Char) : Ends p (cs.dropWhile p) := by
  intro c hc
  have hhead := List.head?_dropWhile_not p cs
  rwa [Option.mem_def.mp hc] at hhead

/-- A text is a run of characters of a class and what ends it in one way only. -/
lemma append_inj_of_ends {p : Char → Bool} {cs ds rest rest' : List Char}
    (hcs : ∀ c ∈ cs, p c = true) (hds : ∀ c ∈ ds, p c = true) (hrest : Ends p rest)
    (hrest' : Ends p rest') (h : cs ++ rest = ds ++ rest') : cs = ds ∧ rest = rest' := by
  have hnone : ∀ {r : List Char}, Ends p r → r.takeWhile p = [] := by
    intro r hr
    cases r with
    | nil => rfl
    | cons c r => simp [hr c rfl]
  have hrun : cs = ds := by
    have htake := congrArg (List.takeWhile p) h
    rwa [List.takeWhile_append_of_pos hcs, List.takeWhile_append_of_pos hds, hnone hrest,
      hnone hrest', List.append_nil, List.append_nil] at htake
  subst hrun
  exact ⟨rfl, List.append_cancel_left h⟩

lemma Spells.ends_isBlank {cs : List Char} {x : Lexeme} (h : Spells cs x) (rest : List Char) :
    Ends Text.isBlank (cs ++ rest) := by
  obtain ⟨c, tail, rfl, hblank, -⟩ := h.exists_cons
  intro d hd
  obtain rfl : c = d := by simpa using hd
  exact hblank

/-- After a word, a piece that stands apart ends it, and no other does. -/
lemma ends_charsOf_cons {p : Piece} {ps : List Piece} {trailing : List Char} :
    Ends isWordChar (charsOf (p :: ps) trailing) ↔ (p.lexeme.isWordLike = true → p.gap ≠ []) := by
  rw [charsOf_cons]
  cases hgap : p.gap with
  | nil =>
      obtain ⟨c, tail, hspelling, -, hword⟩ := p.spells.exists_cons
      simp [Ends, hspelling, hword]
  | cons c gap =>
      have hc := not_isWordChar_of_isBlank (p.blank c (hgap ▸ List.mem_cons_self))
      simp [Ends, hc]

lemma ends_of_blank {cs : List Char} (hcs : ∀ c ∈ cs, Text.isBlank c = true) :
    Ends isWordChar cs :=
  fun c hc => not_isWordChar_of_isBlank (hcs c (List.mem_of_mem_head? hc))

/-- In a layout, what follows a word ends it. -/
lemma ends_of_isChain {p : Piece} {ps : List Piece} {trailing : List Char}
    (hps : (p :: ps).IsChain Piece.Apart) (hblank : ∀ c ∈ trailing, Text.isBlank c = true)
    (hp : p.lexeme.isWordLike = true) : Ends isWordChar (charsOf ps trailing) := by
  cases ps with
  | nil => exact ends_of_blank hblank
  | cons q ps => exact ends_charsOf_cons.mpr ((List.isChain_cons_cons.mp hps).1 hp)

namespace Scan

/-- White space between tokens is skipped. -/
lemma feed_blank {gap : List Char} (hgap : ∀ c ∈ gap, Text.isBlank c = true) (n : Nat) :
    between.feed n gap = .ok ([], between) := by
  induction gap generalizing n with
  | nil => rfl
  | cons c gap ih =>
      have hstep : between.step n c = .ok ([], between) := by
        rw [step, start, if_pos (hgap c List.mem_cons_self)]
      rw [feed_cons_of_step hstep, ih fun d hd => hgap d (List.mem_cons_of_mem c hd)]

lemma start_of_mark {c : Char} {x : Lexeme} (h : (c, x) ∈ marks) (n : Nat) :
    start n c = .ok ([⟨x, n⟩], between) := by
  simp only [marks, List.mem_cons, Prod.mk.injEq, List.not_mem_nil, or_false] at h
  rcases h with ⟨rfl, rfl⟩ | ⟨rfl, rfl⟩ | ⟨rfl, rfl⟩ <;> rfl

lemma start_of_isWordChar {c : Char} (hc : isWordChar c = true) (n : Nat) :
    start n c = .ok ([], word n [c]) := by
  have hne : ∀ d, isWordChar d = false → c ≠ d := by
    rintro d hd rfl
    exact absurd hc (by simp [hd])
  rw [start, if_neg (by simp [not_isBlank_of_toNat (toNat_of_isWordChar hc)]),
    if_neg (hne '(' rfl), if_neg (hne ')' rfl), if_neg (hne ':' rfl), if_neg (hne '"' rfl),
    if_pos hc]

/-- The characters of a word are collected. -/
lemma feed_word {cs : List Char} (hcs : ∀ c ∈ cs, isWordChar c = true) (origin n : Nat)
    (read : List Char) :
    (word origin read).feed n cs = .ok ([], word origin (cs.reverse ++ read)) := by
  induction cs generalizing n read with
  | nil => rfl
  | cons c cs ih =>
      have hstep : (word origin read).step n c = .ok ([], word origin (c :: read)) := by
        rw [step, if_pos (hcs c List.mem_cons_self)]
      rw [feed_cons_of_step hstep, ih fun d hd => hcs d (List.mem_cons_of_mem c hd)]
      simp

/-- A word that ends is a token, and scanning goes on between tokens. -/
lemma run_word {rest : List Char} (hrest : Ends isWordChar rest) (origin n : Nat)
    (read : List Char) :
    (word origin read).run n rest = (between.run n rest).map (wordToken origin read :: ·) := by
  cases rest with
  | nil => rfl
  | cons c rest =>
      have hc : isWordChar c = false := hrest c rfl
      rw [run, run, step, step, if_neg (by simp [hc])]
      cases start n c with
      | error e => rfl
      | ok r =>
          show (do
            let more ← r.2.run (n + 1) rest
            return wordToken origin read :: r.1 ++ more) = Except.map _ (do
            let more ← r.2.run (n + 1) rest
            return r.1 ++ more)
          cases r.2.run (n + 1) rest <;> rfl

/-- **The characters of a lexeme** are read as its token, wherever they stand. -/
lemma run_spells {cs : List Char} {x : Lexeme} (h : Spells cs x) {rest : List Char}
    (hrest : x.isWordLike = true → Ends isWordChar rest) (n : Nat) :
    between.run n (cs ++ rest) = (between.run (n + cs.length) rest).map (⟨x, n⟩ :: ·) := by
  cases h with
  | @mark c x h =>
      rw [run_append, feed, step, start_of_mark h]
      rfl
  | word hne hcs h =>
      obtain ⟨c, cs, rfl⟩ := List.exists_cons_of_ne_nil hne
      have hstep : between.step n c = .ok ([], word n [c]) :=
        start_of_isWordChar (hcs c List.mem_cons_self) n
      rw [run_append, feed_cons_of_step hstep,
        feed_word fun d hd => hcs d (List.mem_cons_of_mem c hd)]
      simp only [Except.bind]
      rw [run_word (hrest h.isWordLike), wordToken]
      have hx := (denotes_iff (by simpa using hcs)).mp h
      simp only [List.reverse_append, List.reverse_reverse, List.reverse_singleton,
        List.singleton_append, ← hx]
      cases between.run (n + (c :: cs).length) rest <;> rfl
  | @quoted body value h =>
      have hstep : between.step n '"' = .ok ([], quoted n []) := rfl
      rw [run_append, feed_cons_of_step hstep, feed_of_unescapes h]
      simp only [Except.bind, List.reverse_nil, List.nil_append, String.ofList_toList]
      rfl

/-- **The tokens of a layout** are found in its characters. -/
lemma run_layout {ps : List Piece} {trailing : List Char} (hps : ps.IsChain Piece.Apart)
    (hblank : ∀ c ∈ trailing, Text.isBlank c = true) (n : Nat) :
    between.run n (charsOf ps trailing) = .ok (tokensFrom n ps) := by
  induction ps generalizing n with
  | nil =>
      rw [charsOf, List.flatMap_nil, List.nil_append, run_eq_feed, feed_blank hblank]
      rfl
  | cons p ps ih =>
      rw [charsOf_cons, run_append, feed_blank p.blank]
      simp only [Except.bind]
      rw [run_spells p.spells (ends_of_isChain hps hblank), Nat.add_assoc,
        ← List.length_append, ih hps.tail]
      rfl

/-! ### From a text to its layout -/

lemma exists_ok_of_map {ε α β : Type} {f : α → β} {x : Except ε α} {b : β}
    (h : x.map f = .ok b) : ∃ a, x = .ok a := by
  cases x with
  | error e => exact absurd h (by simp [Except.map])
  | ok a => exact ⟨a, rfl⟩

/-- A character that completes no token. -/
lemma run_cons_of_step {s next : Scan} {n : Nat} {c : Char} (h : s.step n c = .ok ([], next))
    (rest : List Char) : s.run n (c :: rest) = next.run (n + 1) rest := by
  show s.run n ([c] ++ rest) = _
  rw [run_append, feed_cons_of_step h]
  simp only [feed, Except.bind, List.length_singleton, List.nil_append]
  cases next.run (n + 1) rest <;> rfl

/-- A quote that is closed has a value before its end. -/
lemma exists_unescapes_of_run : ∀ {origin n : Nat} {read cs : List Char} {ts : List Token},
    (quoted origin read).run n cs = .ok ts →
      ∃ body value rest, Unescapes body value ∧ cs = body ++ '"' :: rest
  | origin, n, read, [], ts, h => absurd h (by simp [run, finish])
  | origin, n, read, c :: cs, ts, h => by
      by_cases hquote : c = '"'
      · exact ⟨[], [], cs, .nil, by rw [hquote, List.nil_append]⟩
      by_cases hslash : c = '\\'
      · subst hslash
        have hstep : (quoted origin read).step n '\\' = .ok ([], escape origin read) := rfl
        rw [run_cons_of_step hstep] at h
        cases cs with
        | nil => exact absurd h (by simp [run, finish])
        | cons d cs =>
            by_cases hd : d = '"' ∨ d = '\\'
            · rw [run_cons_of_step (by rw [step, if_pos hd])] at h
              obtain ⟨body, value, rest, hbody, rfl⟩ := exists_unescapes_of_run h
              exact ⟨'\\' :: d :: body, d :: value, rest, .escaped hd hbody, rfl⟩
            · rw [run_cons_of_step (by rw [step, if_neg hd])] at h
              obtain ⟨body, value, rest, hbody, rfl⟩ := exists_unescapes_of_run h
              exact ⟨'\\' :: d :: body, '\\' :: d :: value, rest, .kept hd hbody, rfl⟩
      · rw [run_cons_of_step (by rw [step, if_neg hquote, if_neg hslash])] at h
        obtain ⟨body, value, rest, hbody, rfl⟩ := exists_unescapes_of_run h
        exact ⟨c :: body, c :: value, rest, .plain hquote hslash hbody, rfl⟩

/-- No other character starts a token. -/
lemma start_of_unexpected {c : Char} (hblank : Text.isBlank c = false)
    (hmark : ¬∃ x, (c, x) ∈ marks) (hquote : c ≠ '"') (hword : isWordChar c = false) (n : Nat) :
    start n c = .error (.unexpected c n) := by
  have hne : ∀ d x, (d, x) ∈ marks → c ≠ d := by
    rintro d x hx rfl
    exact hmark ⟨x, hx⟩
  rw [start, if_neg (by simp [hblank]), if_neg (hne '(' .leftParen (by decide)),
    if_neg (hne ')' .rightParen (by decide)), if_neg (hne ':' .colon (by decide)), if_neg hquote,
    if_neg (by simp [hword])]

/-- **What is no white space and has tokens** begins with a lexeme. -/
lemma exists_spells_of_run {n : Nat} {c : Char} {cs : List Char} {ts : List Token}
    (hc : Text.isBlank c = false) (h : between.run n (c :: cs) = .ok ts) :
    ∃ spelling x rest, Spells spelling x ∧ (x.isWordLike = true → Ends isWordChar rest) ∧
      c :: cs = spelling ++ rest := by
  by_cases hmark : ∃ x, (c, x) ∈ marks
  · obtain ⟨x, hx⟩ := hmark
    refine ⟨[c], x, cs, .mark hx, fun hlike => ?_, rfl⟩
    rw [(mark_facts hx).2.2] at hlike
    exact absurd hlike Bool.false_ne_true
  by_cases hquote : c = '"'
  · subst hquote
    have hstep : between.step n '"' = .ok ([], quoted n []) := rfl
    rw [run_cons_of_step hstep] at h
    obtain ⟨body, value, rest, hbody, rfl⟩ := exists_unescapes_of_run h
    refine ⟨'"' :: (body ++ ['"']), .quoted (String.ofList value), rest,
      .quoted (by rwa [String.toList_ofList]), fun hlike => absurd hlike Bool.false_ne_true, ?_⟩
    simp
  by_cases hword : isWordChar c = true
  · have hrun : ∀ d ∈ (c :: cs).takeWhile isWordChar, isWordChar d = true :=
      fun d hd => List.mem_takeWhile_imp hd
    have hdenotes := (denotes_iff (s := String.ofList ((c :: cs).takeWhile isWordChar))
      (by rwa [String.toList_ofList])).mpr rfl
    exact ⟨_, _, (c :: cs).dropWhile isWordChar, .word (by simp [hword]) hrun hdenotes,
      fun _ => ends_dropWhile _ _, List.takeWhile_append_dropWhile.symm⟩
  · rw [run, step, start_of_unexpected hc hmark hquote (by simpa using hword)] at h
    exact absurd h (by simp [bind, Except.bind])

/-- White space before a layout belongs to the first piece, after which the rest has a layout. -/
lemma exists_layout_cons {gap spelling : List Char} {x : Lexeme}
    (hgap : ∀ c ∈ gap, Text.isBlank c = true) (hspells : Spells spelling x) {y : Layout}
    (hends : x.isWordLike = true → Ends isWordChar y.chars) :
    ∃ y' : Layout, y'.chars = gap ++ (spelling ++ y.chars) := by
  obtain ⟨ps, trailing, hps, hblank⟩ := y
  let p : Piece := ⟨gap, spelling, x, hgap, hspells⟩
  have happart : (p :: ps).IsChain Piece.Apart := by
    cases ps with
    | nil => exact .singleton p
    | cons q ps => exact .cons_cons (fun hp => ends_charsOf_cons.mp (hends hp)) hps
  exact ⟨⟨p :: ps, trailing, happart, hblank⟩, charsOf_cons p ps trailing⟩

/-- **A text with tokens** has a layout. -/
lemma exists_layout_of_run {n : Nat} {cs : List Char} {ts : List Token}
    (h : between.run n cs = .ok ts) : ∃ y : Layout, y.chars = cs := by
  induction hlen : cs.length using Nat.strong_induction_on generalizing n cs ts with
  | _ k ih =>
      have hgap : ∀ c ∈ cs.takeWhile Text.isBlank, Text.isBlank c = true :=
        fun c hc => List.mem_takeWhile_imp hc
      have hsplit := List.takeWhile_append_dropWhile (p := Text.isBlank) (l := cs)
      cases hafter : cs.dropWhile Text.isBlank with
      | nil =>
          refine ⟨⟨[], cs.takeWhile Text.isBlank, .nil, hgap⟩, ?_⟩
          rwa [hafter, List.append_nil] at hsplit
      | cons c after =>
          have hc : Text.isBlank c = false := ends_dropWhile Text.isBlank cs c (by rw [hafter]; rfl)
          rw [hafter] at hsplit
          rw [← hsplit, run_append, feed_blank hgap] at h
          obtain ⟨ts', hrun⟩ := exists_ok_of_map h
          obtain ⟨spelling, x, rest, hspells, hends, hlexeme⟩ := exists_spells_of_run hc hrun
          rw [hlexeme, run_spells hspells hends] at hrun
          obtain ⟨more, hmore⟩ := exists_ok_of_map hrun
          have hshorter : rest.length < k := by
            obtain ⟨d, tail, rfl, -, -⟩ := hspells.exists_cons
            have htotal := congrArg List.length hsplit
            rw [hlexeme] at htotal
            simp only [List.length_append, List.length_cons] at htotal
            omega
          obtain ⟨y, rfl⟩ := ih rest.length hshorter hmore rfl
          obtain ⟨y', hy'⟩ := exists_layout_cons hgap hspells hends
          exact ⟨y', by rw [hy', ← hlexeme, hsplit]⟩

end Scan

/-! ### One layout for each text -/

/-- Where a quoted value ends is told by its characters. -/
lemma Unescapes.append_inj {body body' value value' rest rest' : List Char}
    (h : Unescapes body value) (h' : Unescapes body' value')
    (heq : body ++ '"' :: rest = body' ++ '"' :: rest') :
    body = body' ∧ value = value' ∧ rest = rest' := by
  induction h generalizing body' value' with
  | nil =>
      cases h' with
      | nil => exact ⟨rfl, rfl, List.cons_inj_right _ |>.mp heq⟩
      | plain hquote => exact absurd (List.cons.inj heq).1.symm hquote
      | escaped | kept => exact absurd (List.cons.inj heq).1 (by decide)
  | plain hquote hslash h ih =>
      cases h' with
      | nil => exact absurd (List.cons.inj heq).1 hquote
      | plain _ _ h' =>
          obtain ⟨rfl, htail⟩ := List.cons.inj heq
          obtain ⟨rfl, rfl, rfl⟩ := ih h' htail
          exact ⟨rfl, rfl, rfl⟩
      | escaped | kept => exact absurd (List.cons.inj heq).1 hslash
  | escaped hc h ih =>
      cases h' with
      | nil => exact absurd (List.cons.inj heq).1 (by decide)
      | plain _ hslash => exact absurd (List.cons.inj heq).1.symm hslash
      | escaped _ h' =>
          obtain ⟨rfl, htail⟩ := List.cons.inj (List.cons.inj heq).2
          obtain ⟨rfl, rfl, rfl⟩ := ih h' htail
          exact ⟨rfl, rfl, rfl⟩
      | kept hc' =>
          obtain ⟨rfl, -⟩ := List.cons.inj (List.cons.inj heq).2
          exact absurd hc hc'
  | kept hc h ih =>
      cases h' with
      | nil => exact absurd (List.cons.inj heq).1 (by decide)
      | plain _ hslash => exact absurd (List.cons.inj heq).1.symm hslash
      | escaped hc' =>
          obtain ⟨rfl, -⟩ := List.cons.inj (List.cons.inj heq).2
          exact absurd hc' hc
      | kept _ h' =>
          obtain ⟨rfl, htail⟩ := List.cons.inj (List.cons.inj heq).2
          obtain ⟨rfl, rfl, rfl⟩ := ih h' htail
          exact ⟨rfl, rfl, rfl⟩

/-- **Where a lexeme ends and what it is** is told by the characters. -/
lemma Spells.append_inj {cs ds rest rest' : List Char} {x x' : Lexeme} (h : Spells cs x)
    (h' : Spells ds x') (hrest : x.isWordLike = true → Ends isWordChar rest)
    (hrest' : x'.isWordLike = true → Ends isWordChar rest') (heq : cs ++ rest = ds ++ rest') :
    cs = ds ∧ x = x' ∧ rest = rest' := by
  -- words begin with other characters than all else
  have hlike : x.isWordLike = x'.isWordLike := by
    obtain ⟨c, tail, rfl, -, hc⟩ := h.exists_cons
    obtain ⟨d, tail', rfl, -, hd⟩ := h'.exists_cons
    rw [← hc, ← hd, (List.cons.inj heq).1]
  cases h with
  | mark hx =>
      cases h' with
      | mark hx' =>
          obtain ⟨rfl, htail⟩ := List.cons.inj heq
          exact ⟨rfl, mark_unique hx hx', htail⟩
      | word _ _ hx' => exact absurd (hlike.trans hx'.isWordLike) (by simp [(mark_facts hx).2.2])
      | quoted =>
          obtain ⟨rfl, -⟩ := List.cons.inj heq
          exact absurd hx (by simp [marks])
  | word _ hcs hx =>
      cases h' with
      | mark hx' =>
          exact absurd (hlike.symm.trans hx.isWordLike) (by simp [(mark_facts hx').2.2])
      | word _ hds hx' =>
          obtain ⟨rfl, hsame⟩ :=
            append_inj_of_ends hcs hds (hrest hx.isWordLike) (hrest' hx'.isWordLike) heq
          exact ⟨rfl, hx.unique hx', hsame⟩
      | quoted => exact absurd (hlike.symm.trans hx.isWordLike) Bool.false_ne_true
  | quoted hbody =>
      cases h' with
      | mark hx' =>
          obtain ⟨rfl, -⟩ := List.cons.inj heq
          exact absurd hx' (by simp [marks])
      | word _ _ hx' => exact absurd (hlike.trans hx'.isWordLike) Bool.false_ne_true
      | quoted hbody' =>
          rw [List.cons_append, List.cons_append, List.append_assoc, List.append_assoc] at heq
          obtain ⟨rfl, hvalue, rfl⟩ := hbody.append_inj hbody' (List.cons.inj heq).2
          exact ⟨rfl, by rw [String.toList_injective hvalue], rfl⟩

/-- A piece is no white space. -/
lemma charsOf_cons_ne {p : Piece} {ps : List Piece} {trailing cs : List Char}
    (hcs : ∀ c ∈ cs, Text.isBlank c = true) : charsOf (p :: ps) trailing ≠ cs := by
  rintro rfl
  obtain ⟨c, tail, hspelling, hblank, -⟩ := p.spells.exists_cons
  have hc := hcs c (by rw [charsOf_cons, hspelling]; simp)
  rw [hblank] at hc
  exact absurd hc Bool.false_ne_true

/-- Pieces and the white space after them are told by the characters. -/
lemma charsOf_inj {ps ps' : List Piece} {trailing trailing' : List Char}
    (hps : ps.IsChain Piece.Apart) (hps' : ps'.IsChain Piece.Apart)
    (hblank : ∀ c ∈ trailing, Text.isBlank c = true)
    (hblank' : ∀ c ∈ trailing', Text.isBlank c = true)
    (h : charsOf ps trailing = charsOf ps' trailing') : ps = ps' ∧ trailing = trailing' := by
  induction ps generalizing ps' with
  | nil =>
      cases ps' with
      | nil => exact ⟨rfl, h⟩
      | cons q qs => exact absurd h.symm (charsOf_cons_ne hblank)
  | cons p ps ih =>
      cases ps' with
      | nil => exact absurd h (charsOf_cons_ne hblank')
      | cons q qs =>
          rw [charsOf_cons, charsOf_cons] at h
          obtain ⟨hgap, hafter⟩ := append_inj_of_ends p.blank q.blank
            (p.spells.ends_isBlank _) (q.spells.ends_isBlank _) h
          obtain ⟨hspelling, hlexeme, hrest⟩ := p.spells.append_inj q.spells
            (ends_of_isChain hps hblank) (ends_of_isChain hps' hblank') hafter
          obtain ⟨rfl, rfl⟩ := ih hps.tail hps'.tail hrest
          exact ⟨congrArg (· :: ps) (Piece.ext hgap hspelling hlexeme), rfl⟩

/-- No two layouts have the same characters. -/
lemma Layout.chars_injective : Function.Injective Layout.chars := by
  intro y y' h
  obtain ⟨hpieces, htrailing⟩ := charsOf_inj y.apart y'.apart y.blank y'.blank h
  exact Layout.ext hpieces htrailing

/-! ### The grammar -/

/-- **The lexical grammar**: the tokens of a text are those of the layout whose characters are those
of the text, in which every lexeme stands at the offset of its token and nothing is left out. A text
without layout has no tokens, and no text has two layouts. After the last token the parser meets the
end of the query at the length of the text. -/
theorem tokenize_eq_ok_iff_layout (text : String) :
    (∀ ts, tokenize text = .ok ts ↔ ∃ y : Layout, y.chars = text.toList ∧ y.tokens = ts) ∧
      Function.Injective Layout.chars ∧
      ∀ ts, tokenize text = .ok ts → parse text = parseTokens ts text.length := by
  have hlayout : ∀ y : Layout, y.chars = text.toList → tokenize text = .ok y.tokens := by
    intro y hy
    rw [tokenize, ← hy]
    exact Scan.run_layout y.apart y.blank 0
  refine ⟨fun ts => ⟨fun h => ?_, ?_⟩, Layout.chars_injective, fun _ => parse_of_tokenize⟩
  · obtain ⟨y, hy⟩ := Scan.exists_layout_of_run h
    refine ⟨y, hy, ?_⟩
    rw [hlayout y hy] at h
    exact Except.ok.inj h
  · rintro ⟨y, hy, rfl⟩
    exact hlayout y hy

example : tokenize "NOT(x: \"\\a\\\"\")" = .ok [⟨.not "NOT", 0⟩, ⟨.leftParen, 3⟩, ⟨.word "x", 4⟩,
    ⟨.colon, 5⟩, ⟨.quoted "\\a\"", 7⟩, ⟨.rightParen, 13⟩] := by decide

end EntityGraph.Query
