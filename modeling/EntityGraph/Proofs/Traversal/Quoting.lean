import EntityGraph.Proofs.Query.Refusal
import EntityGraph.Traversal.Literal
/-!
Literals in scripts are read back as what they quote.

* `replaceAll`: the occurrences of one text in another replaced by a third. `escapeInTurn` escapes a
  value by four replacements, each of which goes over what the ones before it have left.
* `escapeInTurn_eq`: the four replacements are one substitution for each character. Only the first
  of them replaces backslashes, so no later one meets its own work.
* `Decodes`, `EndsAt`: what the characters between two quotes stand for, and where a literal ends.
* `readLiteral_eq_some_iff`: the reader reads up to the first quote that is not escaped, and decodes
  what stands before it.
* `quoteLiteral_reads_back`: all of this for the literal of any value, whatever follows it.
-/

namespace EntityGraph.Traversal

open Query (backslashesAtEnd backslashesAtEnd_cons_of_ne backslashesAtEnd_pair)

/-! ### Four replacements -/

/-- The occurrences of `old` replaced by `new`, from the left and without overlap. The first `skip`
characters belong to an occurrence that has been replaced. -/
def replaceFrom (old new : List Char) : (skip : Nat) → List Char → List Char
  | _, [] => []
  | skip + 1, _ :: rest => replaceFrom old new skip rest
  | 0, c :: rest =>
    if old <+: c :: rest then new ++ replaceFrom old new (old.length - 1) rest
    else c :: replaceFrom old new 0 rest

/-- A text in which another one, which is not empty, is replaced wherever it occurs. -/
def replaceAll (text old new : String) : String :=
  String.ofList (replaceFrom old.toList new.toList 0 text.toList)

/-- A value ready to stand between single quotes: backslashes first, then quotes and the two line
breaks. -/
def escapeInTurn (value : String) : String :=
  let backslashes := replaceAll value "\\" "\\\\"
  let quotes := replaceAll backslashes "'" "\\'"
  let lines := replaceAll quotes "\n" "\\n"
  replaceAll lines "\r" "\\r"

/-- One character where all occurrences of `old` are replaced by `new`. -/
def replaceChar (old : Char) (new : List Char) (c : Char) : List Char :=
  if c = old then new else [c]

/-- To replace one character is to substitute for each. -/
lemma replaceFrom_singleton (old : Char) (new cs : List Char) :
    replaceFrom [old] new 0 cs = cs.flatMap (replaceChar old new) := by
  induction cs with
  | nil => rfl
  | cons c cs ih =>
      have hfirst : [old] <+: c :: cs ↔ c = old := by simp [eq_comm]
      rw [replaceFrom, List.flatMap_cons, replaceChar, ← ih]
      simp only [hfirst]
      split_ifs <;> rfl

lemma toList_replaceAll {old : String} {c : Char} (hold : old.toList = [c]) (text new : String) :
    (replaceAll text old new).toList = text.toList.flatMap (replaceChar c new.toList) := by
  rw [replaceAll, String.toList_ofList, hold, replaceFrom_singleton]

/-- What becomes of one character in the four replacements. Only a backslash and a quote are met by
more than one of them, and nothing that a replacement has put there is replaced by a later one. -/
lemma escapeChar_eq (c : Char) : escapeChar c
    = (((replaceChar '\\' ['\\', '\\'] c).flatMap (replaceChar '\'' ['\\', '\''])).flatMap
      (replaceChar '\n' ['\\', 'n'])).flatMap (replaceChar '\r' ['\\', 'r']) := by
  by_cases hbackslash : c = '\\'
  · rw [hbackslash]
    rfl
  by_cases hquote : c = '\''
  · rw [hquote]
    rfl
  by_cases hline : c = '\n'
  · rw [hline]
    rfl
  by_cases hreturn : c = '\r'
  · rw [hreturn]
    rfl
  simp [escapeChar, replaceChar, hbackslash, hquote, hline, hreturn]

/-- **Four replacements, one after the other, are one substitution.** -/
theorem escapeInTurn_eq (value : String) : escapeInTurn value = escapeLiteral value := by
  have hliteral : (escapeLiteral value).toList = value.toList.flatMap escapeChar :=
    String.toList_ofList
  refine String.toList_inj.mp ?_
  rw [hliteral, escapeInTurn, toList_replaceAll (c := '\r') rfl, toList_replaceAll (c := '\n') rfl,
    toList_replaceAll (c := '\'') rfl, toList_replaceAll (c := '\\') rfl]
  simp only [List.flatMap_assoc]
  refine congrArg (List.flatMap · value.toList) (funext fun c => ?_)
  rw [escapeChar_eq, List.flatMap_assoc, List.flatMap_assoc]
  rfl

/-! ### Where a literal ends and what it holds -/

/-- What a character stands for behind a backslash. -/
def escapes : List (Char × Char) := [('\\', '\\'), ('\'', '\''), ('n', '\n'), ('r', '\r')]

/-- What the characters between two quotes stand for. Line breaks and quotes do not stand there
without a backslash. -/
inductive Decodes : List Char → List Char → Prop where
  | nil : Decodes [] []
  | plain {c : Char} {body value : List Char} (hc : c ∉ ['\'', '\\', '\n', '\r'])
      (h : Decodes body value) : Decodes (c :: body) (c :: value)
  | escaped {c d : Char} {body value : List Char} (hc : (c, d) ∈ escapes)
      (h : Decodes body value) : Decodes ('\\' :: c :: body) (d :: value)

/-- The first quote that is not escaped: directly before it stands an even number of backslashes,
and directly before every earlier quote an odd one. -/
structure EndsAt (cs body rest : List Char) : Prop where
  split : cs = body ++ '\'' :: rest
  free : backslashesAtEnd body % 2 = 0
  escaped : ∀ front back, body = front ++ '\'' :: back → backslashesAtEnd front % 2 = 1

/-- The escaped form of a value stands for it. -/
lemma decodes_escapeChars (value : List Char) : Decodes (escapeChars value) value := by
  induction value with
  | nil => exact .nil
  | cons c value ih =>
      rw [escapeChars, List.flatMap_cons, ← escapeChars]
      by_cases hbackslash : c = '\\'
      · rw [hbackslash]
        exact .escaped (by decide) ih
      by_cases hquote : c = '\''
      · rw [hquote]
        exact .escaped (by decide) ih
      by_cases hline : c = '\n'
      · rw [hline]
        exact .escaped (by decide) ih
      by_cases hreturn : c = '\r'
      · rw [hreturn]
        exact .escaped (by decide) ih
      have hplain : escapeChar c = [c] := by
        simp [escapeChar, hbackslash, hquote, hline, hreturn]
      rw [hplain]
      exact .plain (by simp [hbackslash, hquote, hline, hreturn]) ih

namespace Decodes

variable {body value : List Char}

/-- No line breaks stand between the quotes. -/
lemma not_break (h : Decodes body value) : '\n' ∉ body ∧ '\r' ∉ body := by
  induction h with
  | nil => simp
  | plain hc _ ih =>
      simp only [List.mem_cons, List.not_mem_nil, or_false, not_or] at hc
      simp [ih, Ne.symm hc.2.2.1, Ne.symm hc.2.2.2]
  | escaped hc _ ih =>
      simp only [escapes, List.mem_cons, Prod.mk.injEq, List.not_mem_nil, or_false] at hc
      rcases hc with ⟨rfl, rfl⟩ | ⟨rfl, rfl⟩ | ⟨rfl, rfl⟩ | ⟨rfl, rfl⟩ <;> simp [ih]

/-- A quote behind the characters is not escaped. -/
lemma free (h : Decodes body value) : backslashesAtEnd body % 2 = 0 := by
  induction h with
  | nil => rfl
  | plain hc _ ih => rwa [backslashesAtEnd_cons_of_ne fun heq => hc (by simp [heq])]
  | escaped _ _ ih => rwa [backslashesAtEnd_pair]

/-- A quote among the characters is escaped. -/
lemma quotes_escaped (h : Decodes body value) : ∀ front back, body = front ++ '\'' :: back →
    backslashesAtEnd front % 2 = 1 := by
  induction h with
  | nil => exact fun front back h => absurd h (by simp)
  | @plain c body value hc _ ih =>
      intro front back hsplit
      cases front with
      | nil => exact absurd (List.cons.inj hsplit).1 fun heq => hc (by simp [heq])
      | cons d front =>
          obtain ⟨rfl, hrest⟩ := List.cons.inj hsplit
          rw [backslashesAtEnd_cons_of_ne fun heq => hc (by simp [heq])]
          exact ih front back hrest
  | @escaped c d body value hc _ ih =>
      intro front back hsplit
      match front, hsplit with
      | [], hsplit => exact absurd (List.cons.inj hsplit).1 (by decide)
      | [x], hsplit =>
          obtain ⟨rfl, -⟩ := List.cons.inj hsplit
          rfl
      | x :: y :: front, hsplit =>
          obtain ⟨rfl, hrest⟩ := List.cons.inj hsplit
          rw [backslashesAtEnd_pair]
          exact ih front back (List.cons.inj hrest).2

/-- What can be decoded up to a quote ends there. -/
lemma endsAt (h : Decodes body value) (rest : List Char) :
    EndsAt (body ++ '\'' :: rest) body rest :=
  ⟨rfl, h.free, h.quotes_escaped⟩

end Decodes

/-! ### The reader -/

/-- What stands behind a backslash is looked up, and reading goes on behind it. -/
lemma readLiteral_backslash (c : Char) (rest : List Char) :
    readLiteral ('\\' :: c :: rest)
      = (escapes.lookup c).bind fun d => (readLiteral rest).map fun r => (d :: r.1, r.2) := by
  by_cases hbackslash : c = '\\'
  · rw [hbackslash, readLiteral]
    cases readLiteral rest <;> rfl
  by_cases hquote : c = '\''
  · rw [hquote, readLiteral]
    cases readLiteral rest <;> rfl
  by_cases hline : c = 'n'
  · rw [hline, readLiteral]
    cases readLiteral rest <;> rfl
  by_cases hreturn : c = 'r'
  · rw [hreturn, readLiteral]
    cases readLiteral rest <;> rfl
  have hnone : escapes.lookup c = none := by
    simp [escapes, List.lookup_eq_none_iff, hbackslash, hquote, hline, hreturn]
  rw [hnone, readLiteral]
  · rfl
  · exact hbackslash
  · exact hquote
  · exact hline
  · exact hreturn

/-- A character that is neither a quote nor a backslash is read as it is, unless it is a line
break. -/
lemma readLiteral_cons {c : Char} (hquote : c ≠ '\'') (hbackslash : c ≠ '\\') (rest : List Char) :
    readLiteral (c :: rest) = if c = '\n' ∨ c = '\r' then none
      else (readLiteral rest).map fun r => (c :: r.1, r.2) := by
  rw [readLiteral]
  · simp [hbackslash]
  · exact fun heq => hquote heq
  · exact fun _ _ heq => absurd heq hbackslash

lemma lookup_escapes {c d : Char} : escapes.lookup c = some d ↔ (c, d) ∈ escapes := by
  constructor
  · intro h
    obtain ⟨before, after, hsplit, -⟩ := List.lookup_eq_some_iff.mp h
    exact hsplit ▸ by simp
  · intro h
    simp only [escapes, List.mem_cons, Prod.mk.injEq, List.not_mem_nil, or_false] at h
    rcases h with ⟨rfl, rfl⟩ | ⟨rfl, rfl⟩ | ⟨rfl, rfl⟩ | ⟨rfl, rfl⟩ <;> rfl

/-- What can be decoded up to a quote is read. -/
lemma Decodes.readLiteral {body value : List Char} (h : Decodes body value) (rest : List Char) :
    readLiteral (body ++ '\'' :: rest) = some (value, rest) := by
  induction h with
  | nil => rfl
  | plain hc _ ih =>
      simp only [List.mem_cons, List.not_mem_nil, or_false, not_or] at hc
      rw [List.cons_append, readLiteral_cons hc.1 hc.2.1, if_neg (not_or.mpr hc.2.2), ih]
      rfl
  | escaped hc _ ih =>
      rw [List.cons_append, List.cons_append, readLiteral_backslash, lookup_escapes.mpr hc, ih]
      rfl

/-- What is read is decoded from what stands before the closing quote. -/
lemma exists_decodes_of_readLiteral : ∀ {cs value rest : List Char},
    readLiteral cs = some (value, rest) → ∃ body, Decodes body value ∧ cs = body ++ '\'' :: rest
  | [], _, _, h => absurd h (by simp [Traversal.readLiteral])
  | c :: cs, value, rest, h => by
      by_cases hquote : c = '\''
      · rw [hquote, Traversal.readLiteral] at h
        obtain ⟨rfl, rfl⟩ := Prod.mk.inj (Option.some.inj h)
        exact ⟨[], .nil, by rw [hquote, List.nil_append]⟩
      by_cases hbackslash : c = '\\'
      · subst hbackslash
        cases cs with
        | nil => exact absurd h (by simp [Traversal.readLiteral])
        | cons c cs =>
            rw [readLiteral_backslash, Option.bind_eq_some_iff] at h
            obtain ⟨d, hd, h⟩ := h
            obtain ⟨⟨value, rest⟩, hread, heq⟩ := Option.map_eq_some_iff.mp h
            obtain ⟨rfl, rfl⟩ := Prod.mk.inj heq
            obtain ⟨body, hbody, rfl⟩ := exists_decodes_of_readLiteral hread
            exact ⟨'\\' :: c :: body, .escaped (lookup_escapes.mp hd) hbody, rfl⟩
      · rw [readLiteral_cons hquote hbackslash] at h
        split_ifs at h with hbreak
        obtain ⟨⟨value, rest⟩, hread, heq⟩ := Option.map_eq_some_iff.mp h
        obtain ⟨rfl, rfl⟩ := Prod.mk.inj heq
        obtain ⟨body, hbody, rfl⟩ := exists_decodes_of_readLiteral hread
        have hplain : c ∉ ['\'', '\\', '\n', '\r'] := by
          simpa [hquote, hbackslash] using hbreak
        exact ⟨c :: body, .plain hplain hbody, rfl⟩

/-- **The reader** reads up to the first quote that is not escaped, and decodes what stands before
it. -/
theorem readLiteral_eq_some_iff {cs value rest : List Char} :
    readLiteral cs = some (value, rest) ↔ ∃ body, EndsAt cs body rest ∧ Decodes body value := by
  constructor
  · intro h
    obtain ⟨body, hbody, rfl⟩ := exists_decodes_of_readLiteral h
    exact ⟨body, hbody.endsAt rest, hbody⟩
  · rintro ⟨body, ⟨rfl, -, -⟩, hbody⟩
    exact hbody.readLiteral rest

/-- A literal from its opening quote on: its value and what follows the closing quote. -/
def readQuoted : List Char → Option (List Char × List Char)
  | '\'' :: rest => readLiteral rest
  | _ => none

/-! ### Literals of values -/

lemma toList_quoteLiteral (value : String) : (quoteLiteral value).toList = literalChars value :=
  String.toList_ofList

lemma toList_escapeLiteral (value : String) :
    (escapeLiteral value).toList = escapeChars value.toList := String.toList_ofList

/-- A value is escaped in four replacements and put between quotes. -/
lemma quoteLiteral_eq (value : String) : quoteLiteral value = "'" ++ escapeInTurn value ++ "'" := by
  refine String.toList_inj.mp ?_
  rw [escapeInTurn_eq, toList_quoteLiteral, String.toList_append, String.toList_append,
    toList_escapeLiteral]
  rfl

/-- **The literal of a value is read back as the value**, whatever follows it, and reading stops
right before that: the closing quote is the first one that is not escaped, and no line break stands
before it. A value is escaped by four replacements one after the other, which are one substitution
for each character. The reader stops at the first quote that is not escaped and decodes what stands
before it; it reads nothing else. -/
theorem quoteLiteral_reads_back :
    (∀ value rest : String,
      readQuoted (quoteLiteral value ++ rest).toList = some (value.toList, rest.toList) ∧
      EndsAt (escapeLiteral value ++ "'" ++ rest).toList (escapeLiteral value).toList rest.toList ∧
      '\n' ∉ (escapeLiteral value).toList ∧ '\r' ∉ (escapeLiteral value).toList) ∧
    (∀ value : String, quoteLiteral value = "'" ++ escapeInTurn value ++ "'" ∧
      (escapeInTurn value).toList = value.toList.flatMap escapeChar) ∧
    ∀ cs value rest : List Char, readLiteral cs = some (value, rest) ↔
      ∃ body, EndsAt cs body rest ∧ Decodes body value := by
  refine ⟨fun value rest => ?_, fun value => ⟨quoteLiteral_eq value, ?_⟩,
    fun cs value rest => readLiteral_eq_some_iff⟩
  · have hvalue := decodes_escapeChars value.toList
    have hread : readQuoted (quoteLiteral value ++ rest).toList
        = readLiteral (escapeChars value.toList ++ '\'' :: rest.toList) := by
      simp [toList_quoteLiteral, literalChars, readQuoted]
    have hchars : (escapeLiteral value ++ "'" ++ rest).toList
        = escapeChars value.toList ++ '\'' :: rest.toList := by
      simp [toList_escapeLiteral]
    rw [hread, hchars, toList_escapeLiteral]
    exact ⟨hvalue.readLiteral rest.toList, hvalue.endsAt rest.toList, hvalue.not_break⟩
  · rw [escapeInTurn_eq, toList_escapeLiteral, escapeChars]

example : escapeInTurn "x\\'\r" = "x\\\\\\'\\r" := by decide

end EntityGraph.Traversal
