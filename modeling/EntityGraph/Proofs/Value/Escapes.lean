import EntityGraph.Value.Json
import Mathlib.Tactic.Common
/-!
JSON strings are printable ASCII and are read as the texts that they were written from.

* `jsonUnit_eq`, `hexUnit?_digits`: four hexadecimal digits tell a unit.
* `jsonChar_cases`: a character is escaped by a letter, stands for itself, or is written as a unit
  or as a pair of units.
* `UnitsValid`: what follows a unit, which must not be taken for the second half of a pair.
* `readString_jsonChar`, `readString_flatMap`: characters and texts are read as they were written.
* `IsPrintable`, `isPrintable_jsonString`: strings are written in printable ASCII.
-/

namespace EntityGraph.Value

variable {c : Char} {n : ℕ} {read more rest : List Char}

/-! ### Units -/

lemma hexValue?_digitChar : ∀ n < 16, hexValue? n.digitChar = some n := by
  decide

/-- A unit is written by four digits. -/
lemma jsonUnit_eq (h : n < 0x10000) : jsonUnit n = ['\\', 'u', (n / 4096).digitChar,
    (n / 256 % 16).digitChar, (n / 16 % 16).digitChar, (n % 16).digitChar] := by
  have hzero : (0).digitChar = '0' := rfl
  have hlast {m : ℕ} (hm : 16 ≤ m) : Nat.toDigits 16 m
      = Nat.toDigits 16 (m / 16) ++ [(m % 16).digitChar] := Nat.toDigits_of_base_le (by decide) hm
  have hfirst {m : ℕ} (hm : m < 16) : Nat.toDigits 16 m = [m.digitChar] :=
    Nat.toDigits_of_lt_base hm
  rw [jsonUnit]
  by_cases h₁ : n < 16
  · rw [hfirst h₁, show n / 4096 = 0 by omega, show n / 256 % 16 = 0 by omega,
      show n / 16 % 16 = 0 by omega, show n % 16 = n by omega]
    rfl
  by_cases h₂ : n < 256
  · rw [hlast (by omega), hfirst (by omega : n / 16 < 16), show n / 4096 = 0 by omega,
      show n / 256 % 16 = 0 by omega, show n / 16 % 16 = n / 16 by omega]
    rfl
  by_cases h₃ : n < 4096
  · rw [hlast (by omega), hlast (by omega : 16 ≤ n / 16), hfirst (by omega : n / 16 / 16 < 16),
      show n / 4096 = 0 by omega, show n / 256 % 16 = n / 16 / 16 by omega]
    rfl
  · rw [hlast (by omega), hlast (by omega : 16 ≤ n / 16), hlast (by omega : 16 ≤ n / 16 / 16),
      hfirst (by omega : n / 16 / 16 / 16 < 16), show n / 4096 = n / 16 / 16 / 16 by omega,
      show n / 256 % 16 = n / 16 / 16 % 16 by omega]
    rfl

lemma hexUnit?_digits (h : n < 0x10000) : hexUnit? (n / 4096).digitChar
    (n / 256 % 16).digitChar (n / 16 % 16).digitChar (n % 16).digitChar = some n := by
  rw [hexUnit?, hexValue?_digitChar _ (by omega), hexValue?_digitChar _ (by omega),
    hexValue?_digitChar _ (by omega), hexValue?_digitChar _ (by omega)]
  simp only [Option.bind_eq_bind, Option.bind_some, Option.some.injEq]
  omega

/-! ### Characters -/

lemma toNat_lt (c : Char) : c.toNat < 0x110000 := by
  obtain h | h := c.valid
  · exact Nat.lt_trans h (by decide)
  · exact h.2

/-- The characters that are escaped by a letter or by themselves. -/
def shortEscapes : List (Char × Char) :=
  [('"', '"'), ('\\', '\\'), ('\n', 'n'), ('\r', 'r'), ('\t', 't'), ('\x08', 'b'), ('\x0c', 'f')]

lemma jsonChar_short : ∀ e ∈ shortEscapes, jsonChar e.1 = ['\\', e.2] := by
  decide

/-- How a character is written. -/
lemma jsonChar_cases (c : Char) :
    (∃ x, (c, x) ∈ shortEscapes ∧ jsonChar c = ['\\', x]) ∨
    (jsonChar c = [c] ∧ c ≠ '"' ∧ c ≠ '\\' ∧ 32 ≤ c.toNat ∧ c.toNat < 127) ∨
    (jsonChar c = jsonUnit c.toNat ∧ c.toNat < 0x10000) ∨
    (jsonChar c = jsonUnit (0xD800 + (c.toNat - 0x10000) / 0x400)
        ++ jsonUnit (0xDC00 + (c.toNat - 0x10000) % 0x400) ∧ 0x10000 ≤ c.toNat) := by
  by_cases hshort : c ∈ shortEscapes.map Prod.fst
  · obtain ⟨e, he, rfl⟩ := List.mem_map.mp hshort
    exact .inl ⟨e.2, he, jsonChar_short e he⟩
  · have hne : c ≠ '"' ∧ c ≠ '\\' ∧ c ≠ '\n' ∧ c ≠ '\r' ∧ c ≠ '\t' ∧ c ≠ '\x08' ∧
        c ≠ '\x0c' := by
      simpa [shortEscapes] using hshort
    simp only [jsonChar, hne, if_false]
    split
    · rename_i hprintable
      exact .inr (.inl ⟨rfl, hne.1, hne.2.1, hprintable⟩)
    · split
      · rename_i hunit
        exact .inr (.inr (.inl ⟨rfl, hunit⟩))
      · rename_i hpair
        exact .inr (.inr (.inr ⟨rfl, Nat.not_lt.mp hpair⟩))

/-- A letter behind a backslash stands for what it escapes. -/
lemma readString_short {x : Char} (h : (c, x) ∈ shortEscapes) :
    readString read ('\\' :: x :: rest) = readString (c :: read) rest := by
  simp only [shortEscapes, List.mem_cons, Prod.mk.injEq, List.not_mem_nil, or_false] at h
  obtain ⟨rfl, rfl⟩ | ⟨rfl, rfl⟩ | ⟨rfl, rfl⟩ | ⟨rfl, rfl⟩ | ⟨rfl, rfl⟩ | ⟨rfl, rfl⟩ |
    ⟨rfl, rfl⟩ := h
  all_goals rw [readString] <;> simp

/-- A printable character stands for itself. -/
lemma readString_printable (hquote : c ≠ '"') (hbackslash : c ≠ '\\') (hc : 32 ≤ c.toNat) :
    readString read (c :: rest) = readString (c :: read) rest := by
  rw [readString]
  · simp [Nat.not_lt.mpr hc, hbackslash]
  all_goals simp [hquote, hbackslash]

/-- What follows a unit does not begin with something that only looks like another one. -/
def UnitsValid (cs : List Char) : Prop :=
  ∀ a b c d rest, cs = '\\' :: 'u' :: a :: b :: c :: d :: rest → (hexUnit? a b c d).isSome = true

/-- A unit that is no half of a pair stands for its character. -/
lemma readString_jsonUnit (hn : n.isValidChar) (hunit : n < 0x10000) (hrest : UnitsValid rest) :
    readString read (jsonUnit n ++ rest) = readString (Char.ofNat n :: read) rest := by
  have hvalid : ¬ (0xD800 ≤ n ∧ n < 0xE000) := by
    rw [Nat.isValidChar] at hn
    omega
  rw [jsonUnit_eq hunit]
  simp only [List.cons_append, List.nil_append]
  by_cases hnext : ∃ a b c d more, rest = '\\' :: 'u' :: a :: b :: c :: d :: more
  · -- Another unit follows, and is not taken for the second half of a pair.
    obtain ⟨a, b, c, d, more, rfl⟩ := hnext
    obtain ⟨low, hlow⟩ := Option.isSome_iff_exists.mp (hrest a b c d more rfl)
    rw [readString, hexUnit?_digits hunit, hlow]
    have hhigh : ¬ (0xD800 ≤ n ∧ n < 0xDC00) := by omega
    have hlow : ¬ (0xDC00 ≤ n ∧ n < 0xE000) := by omega
    simp only [hhigh, hlow, if_false]
  · rw [readString, hexUnit?_digits hunit]
    · simp only [hvalid, if_false]
    · exact fun a b c d more heq => hnext ⟨a, b, c, d, more, heq⟩

/-- The two halves of a pair stand for one character. -/
lemma readString_pair {high low : ℕ} (hhigh : 0xD800 ≤ high ∧ high < 0xDC00)
    (hlow : 0xDC00 ≤ low ∧ low < 0xE000) :
    readString read (jsonUnit high ++ (jsonUnit low ++ rest))
      = readString (Char.ofNat (0x10000 + (high - 0xD800) * 0x400 + (low - 0xDC00)) :: read)
          rest := by
  rw [jsonUnit_eq (by omega : high < 0x10000), jsonUnit_eq (by omega : low < 0x10000)]
  simp only [List.cons_append, List.nil_append]
  rw [readString, hexUnit?_digits (by omega), hexUnit?_digits (by omega)]
  simp only [hhigh, hlow, and_self, if_true]

/-- A character is read as it was written. -/
lemma readString_jsonChar (c : Char) (hrest : UnitsValid rest) :
    readString read (jsonChar c ++ rest) = readString (c :: read) rest := by
  obtain ⟨x, hx, heq⟩ | ⟨heq, hquote, hbackslash, hprintable, -⟩ | ⟨heq, hunit⟩ | ⟨heq, hpair⟩ :=
    jsonChar_cases c
  · rw [heq]
    exact readString_short hx
  · rw [heq]
    exact readString_printable hquote hbackslash hprintable
  · rw [heq, readString_jsonUnit (n := c.toNat) c.valid hunit hrest, Char.ofNat_toNat]
  · have hlt := toNat_lt c
    rw [heq, List.append_assoc, readString_pair (by omega) (by omega)]
    have hcode : 0x10000 + (0xD800 + (c.toNat - 0x10000) / 0x400 - 0xD800) * 0x400
        + (0xDC00 + (c.toNat - 0x10000) % 0x400 - 0xDC00) = c.toNat := by
      omega
    rw [hcode, Char.ofNat_toNat]

lemma unitsValid_jsonUnit (h : n < 0x10000) (rest : List Char) :
    UnitsValid (jsonUnit n ++ rest) := by
  intro a b c d more heq
  rw [jsonUnit_eq h] at heq
  simp only [List.cons_append, List.nil_append, List.cons.injEq, true_and] at heq
  obtain ⟨rfl, rfl, rfl, rfl, -⟩ := heq
  rw [hexUnit?_digits h]
  rfl

lemma unitsValid_jsonChar (c : Char) (rest : List Char) : UnitsValid (jsonChar c ++ rest) := by
  obtain ⟨x, hx, heq⟩ | ⟨heq, -, hbackslash, -⟩ | ⟨heq, hunit⟩ | ⟨heq, hpair⟩ := jsonChar_cases c
  · have hletters : ∀ e ∈ shortEscapes, e.2 ≠ 'u' := by decide
    rw [heq]
    intro a b c d more h
    simp only [List.cons_append, List.nil_append, List.cons.injEq, true_and] at h
    exact absurd h.1 (hletters _ hx)
  · rw [heq]
    intro a b c d more h
    rw [List.singleton_append, List.cons.injEq] at h
    exact absurd h.1 hbackslash
  · rw [heq]
    exact unitsValid_jsonUnit hunit rest
  · have hlt := toNat_lt c
    rw [heq, List.append_assoc]
    exact unitsValid_jsonUnit (by omega) _

/-- **A string is read as the text that it was written from.** -/
lemma readString_flatMap (cs rest : List Char) :
    readString read (cs.flatMap jsonChar ++ '"' :: rest)
      = some (String.ofList (read.reverse ++ cs), rest) := by
  induction cs generalizing read with
  | nil => rw [List.flatMap_nil, List.nil_append, readString, List.append_nil]
  | cons c cs ih =>
      have hunits : UnitsValid (cs.flatMap jsonChar ++ '"' :: rest) := by
        cases cs with
        | nil =>
            intro a b c d more h
            simp at h
        | cons d cs =>
            rw [List.flatMap_cons, List.append_assoc]
            exact unitsValid_jsonChar d _
      rw [List.flatMap_cons, List.append_assoc, readString_jsonChar c hunits, ih,
        List.reverse_cons, List.append_assoc, List.singleton_append]

/-! ### Printable ASCII -/

/-- A printable character of ASCII. -/
def IsPrintable (c : Char) : Prop := ' ' ≤ c ∧ c ≤ '~'

instance : DecidablePred IsPrintable := fun c => inferInstanceAs (Decidable (' ' ≤ c ∧ c ≤ '~'))

/-- The characters of a fixed text are checked one by one. -/
lemma isPrintable_of_all {cs : List Char} (h : cs.all (fun c => decide (IsPrintable c)) = true) :
    ∀ c ∈ cs, IsPrintable c := fun c hc =>
  of_decide_eq_true (List.all_eq_true.mp h c hc)

lemma isPrintable_digitChar : ∀ n < 16, IsPrintable n.digitChar := by
  decide

lemma isPrintable_jsonUnit (h : n < 0x10000) : ∀ c ∈ jsonUnit n, IsPrintable c := by
  have hletters : IsPrintable '\\' ∧ IsPrintable 'u' := by decide
  rw [jsonUnit_eq h]
  simp only [List.forall_mem_cons, List.not_mem_nil, false_imp_iff, implies_true, and_true]
  exact ⟨hletters.1, hletters.2, isPrintable_digitChar _ (by omega),
    isPrintable_digitChar _ (by omega), isPrintable_digitChar _ (by omega),
    isPrintable_digitChar _ (by omega)⟩

lemma isPrintable_jsonChar (c : Char) : ∀ x ∈ jsonChar c, IsPrintable x := by
  obtain ⟨x, hx, heq⟩ | ⟨heq, -, -, hfirst, hlast⟩ | ⟨heq, hunit⟩ | ⟨heq, hpair⟩ := jsonChar_cases c
  · have hletters : ∀ e ∈ shortEscapes, IsPrintable e.2 := by decide
    rw [heq, List.forall_mem_cons, List.forall_mem_singleton]
    exact ⟨by decide, hletters _ hx⟩
  · rw [heq, List.forall_mem_singleton]
    exact ⟨hfirst, Nat.le_of_lt_succ hlast⟩
  · rw [heq]
    exact isPrintable_jsonUnit hunit
  · have hlt := toNat_lt c
    rw [heq, List.forall_mem_append]
    exact ⟨isPrintable_jsonUnit (by omega), isPrintable_jsonUnit (by omega)⟩

/-- A string is written in printable ASCII. -/
lemma isPrintable_jsonString (s : String) : ∀ c ∈ (jsonString s).toList, IsPrintable c := by
  have hquote : IsPrintable '"' := by decide
  rw [jsonString, String.toList_ofList, List.cons_append, List.forall_mem_cons,
    List.forall_mem_append, List.forall_mem_singleton]
  refine ⟨hquote, fun c hc => ?_, hquote⟩
  obtain ⟨x, -, hx⟩ := List.mem_flatMap.mp hc
  exact isPrintable_jsonChar x c hx

end EntityGraph.Value
