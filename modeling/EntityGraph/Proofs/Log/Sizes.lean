import EntityGraph.Log.Size
import EntityGraph.Proofs.Text.Runs
import Mathlib.Tactic.Common
/-!
Which texts are read as sizes, and as which.

* `Written`: digits and the letters of a unit, with white space around and between.
* `isUnit_iff`: what is recognized as a unit: the units in any letter case, and `KB` with a Kelvin
  sign for its first letter.
* `Written.layout`, `written_layout`: what the reader takes for digits and unit is written, and
  nothing else is.
* `Written.readSize_ok`, `Written.readSize_kelvin`: what is read where something is written.
* `readSize_exact`: sizes are read exactly, and all but one kind of other texts are malformed.
-/

namespace EntityGraph.Log

open Text (isBlank isDigit stripChars while_append exists_stripChars stripChars_surrounded)

variable {text digits unit cs : List Char} {c : Char}

/-- A text that writes some digits and the letters of a unit, with nothing but white space around
and between them. -/
structure Written (text digits unit : List Char) : Prop where
  pieces : ∃ before gap after, text = before ++ (digits ++ (gap ++ unit)) ++ after ∧
    ∀ c ∈ before ++ gap ++ after, isBlank c = true
  ne_nil : digits ≠ []
  allDigits : ∀ c ∈ digits, isDigit c = true

/-! ### Characters -/

lemma isDigit_iff : isDigit c = true ↔ ∃ z ∈ Text.digitZeros, z ≤ c.toNat ∧ c.toNat < z + 10 := by
  simp [isDigit, Text.digitValue?]

lemma not_isBlank_of_isDigit (h : isDigit c = true) : isBlank c = false := by
  have hapart : ∀ z ∈ Text.digitZeros, ∀ r ∈ Text.blankRanges, r.2 < z ∨ z + 10 ≤ r.1 := by
    decide
  obtain ⟨z, hz, hzero, hten⟩ := isDigit_iff.mp h
  rw [← Bool.not_eq_true, isBlank, Text.inRanges_iff]
  rintro ⟨r, hr, hfirst, hlast⟩
  have := hapart z hz r hr
  omega

/-- A character is its own capital, or a small letter. -/
lemma toUpper_eq_or (c : Char) : c.toUpper = c ∨ 97 ≤ c.toNat ∧ c.toNat < 123 := by
  by_cases h : 'a' ≤ c ∧ c ≤ 'z'
  · exact .inr ⟨h.1, Nat.lt_succ_of_le h.2⟩
  · exact .inl (dif_neg h)

/-- The letters that units are made of, and the Kelvin sign. -/
def unitLetters : List Char := ['B', 'K', 'M', 'G', '\u212a']

/-- A character that stands for a letter of a unit is neither a digit nor white space. -/
lemma not_isDigit_of_toUpper_mem (h : c.toUpper ∈ unitLetters) :
    isDigit c = false ∧ isBlank c = false := by
  obtain hself | ⟨hfirst, hlast⟩ := toUpper_eq_or c
  · have hletters : ∀ x ∈ unitLetters, isDigit x = false ∧ isBlank x = false := by
      simp only [unitLetters, List.forall_mem_cons, List.not_mem_nil, false_imp_iff, implies_true]
      decide
    exact hletters c (hself ▸ h)
  · have hsmall : ∀ n < 123, 97 ≤ n →
        isDigit (Char.ofNat n) = false ∧ isBlank (Char.ofNat n) = false := by
      decide
    have hc := hsmall c.toNat hlast hfirst
    rwa [Char.ofNat_toNat] at hc

/-- A letter is recognized by its capital, and the Kelvin sign for a K. -/
lemma foldLetter_eq_iff {x : Char} (hx : x ≠ '\u212a') :
    foldLetter c = x ↔ c.toUpper = x ∨ x = 'K' ∧ c.toUpper = '\u212a' := by
  rw [foldLetter]
  by_cases hc : c = '\u212a'
  · have hself : Char.toUpper '\u212a' = '\u212a' := rfl
    rw [if_pos hc, hc, hself]
    simp [hx.symm, eq_comm]
  · have hne : c.toUpper ≠ '\u212a' := by
      intro heq
      obtain hself | ⟨hfirst, hlast⟩ := toUpper_eq_or c
      · exact hc (hself.symm.trans heq)
      · have hsmall : ∀ n < 123, (Char.ofNat n).toUpper ≠ '\u212a' := by decide
        exact hsmall c.toNat hlast (by rwa [Char.ofNat_toNat])
    rw [if_neg hc]
    simp [hne]

lemma map_foldLetter_eq_single : unit.map foldLetter = ['B'] ↔ unit.map Char.toUpper = ['B'] := by
  match unit with
  | [] => simp
  | [c] => simp [foldLetter_eq_iff]
  | _ :: _ :: _ => simp

lemma map_foldLetter_eq_pair {x : Char} (hx : x ≠ '\u212a') : unit.map foldLetter = [x, 'B'] ↔
    unit.map Char.toUpper = [x, 'B'] ∨ x = 'K' ∧ unit.map Char.toUpper = ['\u212a', 'B'] := by
  match unit with
  | [] => simp
  | [_] => simp
  | [c, d] => simp [foldLetter_eq_iff hx, foldLetter_eq_iff, or_and_right, and_assoc]
  | _ :: _ :: _ :: _ => simp

/-- **What is recognized as a unit**: the units in any letter case, and a Kelvin sign before a B. -/
lemma isUnit_iff : isUnit unit = true ↔
    (∃ name ∈ sizeUnits.map Prod.fst, unit.map Char.toUpper = name.toList) ∨
    unit.map Char.toUpper = ['\u212a', 'B'] := by
  have hfolded : isUnit unit = true ↔ unit.map foldLetter = ['B'] ∨
      unit.map foldLetter = ['K', 'B'] ∨ unit.map foldLetter = ['M', 'B'] ∨
      unit.map foldLetter = ['G', 'B'] := by
    simp [isUnit, sizeUnits, ← String.toList_inj]
  have hnames (cs : List Char) : (∃ name ∈ sizeUnits.map Prod.fst, cs = name.toList) ↔
      cs = ['B'] ∨ cs = ['K', 'B'] ∨ cs = ['M', 'B'] ∨ cs = ['G', 'B'] := by
    simp [sizeUnits]
  rw [hfolded, hnames, map_foldLetter_eq_single, map_foldLetter_eq_pair (by decide),
    map_foldLetter_eq_pair (by decide), map_foldLetter_eq_pair (by decide)]
  simp only [Char.reduceEq, false_and, or_false, true_and]
  tauto

/-! ### Layouts -/

lemma not_isDigit_of_isUnit (h : isUnit unit = true) :
    unit ≠ [] ∧ ∀ c ∈ unit, isDigit c = false ∧ isBlank c = false := by
  have hletters : unit.map Char.toUpper ≠ [] ∧ unit.map Char.toUpper ⊆ unitLetters := by
    obtain ⟨name, hname, hunit⟩ | hunit := isUnit_iff.mp h
    · have hnames : ∀ name ∈ sizeUnits.map Prod.fst,
          name.toList ≠ [] ∧ name.toList ⊆ unitLetters := by
        decide
      rw [hunit]
      exact hnames name hname
    · rw [hunit]
      decide
  refine ⟨fun hnil => hletters.1 (by rw [hnil, List.map_nil]), fun c hc => ?_⟩
  exact not_isDigit_of_toUpper_mem (hletters.2 (List.mem_map_of_mem hc))

/-- Where digits and a unit are written, they are what is left without the white space around. -/
lemma Written.stripChars_eq (h : Written text digits unit) (hunit : isUnit unit = true) :
    ∃ gap, stripChars text = digits ++ (gap ++ unit) ∧ ∀ c ∈ gap, isBlank c = true := by
  obtain ⟨before, gap, after, rfl, hblank⟩ := h.pieces
  obtain ⟨hne, hletters⟩ := not_isDigit_of_isUnit hunit
  rw [List.append_assoc, List.forall_mem_append, List.forall_mem_append] at hblank
  have hfirst : ∀ c ∈ (digits ++ (gap ++ unit)).head?, isBlank c = false := by
    obtain ⟨d, ds, rfl⟩ := List.exists_cons_of_ne_nil h.ne_nil
    simpa using not_isBlank_of_isDigit (h.allDigits d List.mem_cons_self)
  have hlast : ∀ c ∈ (digits ++ (gap ++ unit)).getLast?, isBlank c = false := by
    intro c hc
    rw [List.getLast?_append, List.getLast?_append, List.getLast?_eq_some_getLast hne,
      Option.some_or, Option.some_or] at hc
    exact (hletters c (Option.mem_some_iff.mp hc ▸ List.getLast_mem hne)).2
  refine ⟨gap, stripChars_surrounded (by simp [h.ne_nil]) hfirst hlast ?_, hblank.2.1⟩
  exact List.forall_mem_append.mpr ⟨hblank.1, hblank.2.2⟩

/-- What the reader takes for the digits and the unit of a text that writes them. -/
lemma Written.layout (h : Written text digits unit) (hunit : isUnit unit = true) :
    (stripChars text).takeWhile isDigit = digits ∧
    ((stripChars text).dropWhile isDigit).dropWhile isBlank = unit := by
  obtain ⟨gap, hstrip, hgap⟩ := h.stripChars_eq hunit
  obtain ⟨-, hletters⟩ := not_isDigit_of_isUnit hunit
  have hdigits : ∀ c ∈ (gap ++ unit).head?, isDigit c = false := by
    intro c hc
    obtain hmem | hmem := List.mem_append.mp (List.mem_of_head? hc)
    · exact Bool.eq_false_iff.mpr fun hdigit =>
        Bool.eq_false_iff.mp (not_isBlank_of_isDigit hdigit) (hgap c hmem)
    · exact (hletters c hmem).1
  rw [hstrip, (while_append h.allDigits hdigits).1, (while_append h.allDigits hdigits).2]
  exact ⟨rfl, (while_append hgap fun c hc => (hletters c (List.mem_of_head? hc)).2).2⟩

/-- Whatever the reader takes for digits and unit is written, if there are digits. -/
lemma written_layout (hne : (stripChars text).takeWhile isDigit ≠ []) :
    Written text ((stripChars text).takeWhile isDigit)
      (((stripChars text).dropWhile isDigit).dropWhile isBlank) := by
  obtain ⟨before, after, htext, hblank⟩ := exists_stripChars text
  refine ⟨⟨before, ((stripChars text).dropWhile isDigit).takeWhile isBlank, after, ?_, ?_⟩, hne,
    fun c hc => List.mem_takeWhile_imp hc⟩
  · rw [List.takeWhile_append_dropWhile, List.takeWhile_append_dropWhile]
    exact htext
  · intro c hc
    rw [List.append_assoc, List.mem_append, List.mem_append] at hc
    obtain hc | hc | hc := hc
    · exact hblank c (List.mem_append_left _ hc)
    · exact List.mem_takeWhile_imp hc
    · exact hblank c (List.mem_append_right _ hc)

/-! ### What is read -/

/-- What is read where some digits, few enough, and a unit are written. -/
lemma Written.readSize_eq {s : String} (h : Written s.toList digits unit)
    (hunit : isUnit unit = true) (hfew : digits.length ≤ maxSizeDigits) :
    readSize s = (sizeUnits.lookup (String.ofList (unit.map Char.toUpper))).elim
      (.error (.unknownUnit (String.ofList (unit.map Char.toUpper))))
      fun bytes => .ok (Text.digitsValue digits * bytes) := by
  obtain ⟨hdigits, hletters⟩ := h.layout hunit
  have hne : digits.isEmpty = false := List.isEmpty_eq_false_iff.mpr h.ne_nil
  simp only [readSize, hdigits, hletters, hne, hunit, Bool.not_true, Bool.or_self,
    Bool.false_eq_true, if_false, Nat.not_lt.mpr hfew]
  cases sizeUnits.lookup (String.ofList (unit.map Char.toUpper)) <;> rfl

/-- Where no digits with a unit are written, a text is malformed. -/
lemma readSize_of_not_written {s : String}
    (h : ∀ digits unit, Written s.toList digits unit → isUnit unit = false) :
    readSize s = .error (.malformed s) := by
  rw [readSize]
  by_cases hne : (stripChars s.toList).takeWhile isDigit = []
  · simp [hne]
  · simp [h _ _ (written_layout hne)]

/-- The digits that are written are among those of the text. -/
lemma Written.length_le (h : Written text digits unit) :
    digits.length ≤ (text.filter isDigit).length := by
  obtain ⟨before, gap, after, rfl, -⟩ := h.pieces
  have hsub : digits.Sublist (before ++ (digits ++ (gap ++ unit)) ++ after) :=
    ((List.sublist_append_left _ _).trans (List.sublist_append_right _ _)).trans
      (List.sublist_append_left _ _)
  calc digits.length = (digits.filter isDigit).length := by
        rw [List.filter_eq_self.mpr h.allDigits]
    _ ≤ _ := (hsub.filter _).length_le

/-- A unit in any letter case counts for what it stands for. -/
lemma Written.readSize_ok {s : String} {name : String} {bytes : ℕ}
    (h : Written s.toList digits unit) (hunit : unit.map Char.toUpper = name.toList)
    (hname : (name, bytes) ∈ sizeUnits) (hfew : digits.length ≤ maxSizeDigits) :
    readSize s = .ok (Text.digitsValue digits * bytes) := by
  have hlookup : ∀ u ∈ sizeUnits, sizeUnits.lookup u.1 = some u.2 := by decide
  rw [h.readSize_eq (isUnit_iff.mpr (.inl ⟨name, List.mem_map_of_mem hname, hunit⟩)) hfew, hunit,
    String.ofList_toList, hlookup _ hname, Option.elim_some]

/-- A Kelvin sign passes for a K while the unit is recognized, and is no K afterwards. -/
lemma Written.readSize_kelvin {s : String} (h : Written s.toList digits unit)
    (hunit : unit.map Char.toUpper = ['\u212a', 'B']) (hfew : digits.length ≤ maxSizeDigits) :
    readSize s = .error (.unknownUnit "\u212aB") := by
  rw [h.readSize_eq (isUnit_iff.mpr (.inr hunit)) hfew, hunit]
  rfl

/-- A text writes a size, or one with a Kelvin sign, or is malformed. -/
lemma readSize_cases {s : String} (hfew : (s.toList.filter isDigit).length ≤ maxSizeDigits) :
    (∃ digits unit name bytes, Written s.toList digits unit ∧
      unit.map Char.toUpper = name.toList ∧ (name, bytes) ∈ sizeUnits ∧
      readSize s = .ok (Text.digitsValue digits * bytes)) ∨
    (∃ digits unit, Written s.toList digits unit ∧ unit.map Char.toUpper = ['\u212a', 'B'] ∧
      readSize s = .error (.unknownUnit "\u212aB")) ∨
    readSize s = .error (.malformed s) := by
  by_cases h : ∃ digits unit, Written s.toList digits unit ∧ isUnit unit = true
  · obtain ⟨digits, unit, hwritten, hunit⟩ := h
    have hle := hwritten.length_le.trans hfew
    obtain ⟨name, hname, hunit⟩ | hunit := isUnit_iff.mp hunit
    · obtain ⟨⟨name, bytes⟩, hmem, rfl⟩ := List.mem_map.mp hname
      exact .inl ⟨digits, unit, name, bytes, hwritten, hunit, hmem,
        hwritten.readSize_ok hunit hmem hle⟩
    · exact .inr (.inl ⟨digits, unit, hwritten, hunit, hwritten.readSize_kelvin hunit hle⟩)
  · refine .inr (.inr (readSize_of_not_written fun digits unit hwritten => ?_))
    exact Bool.eq_false_iff.mpr fun hunit => h ⟨digits, unit, hwritten, hunit⟩

/-- **Sizes are read exactly**, in texts with at most 4300 digits: the size that is read is the
number that the digits write, times what the unit stands for, which is one of four in any letter
case. All other texts are malformed but for those with a Kelvin sign in place of the K, whose unit
is unknown. -/
theorem readSize_exact {s : String} (hfew : (s.toList.filter isDigit).length ≤ 4300) :
    (∀ n, readSize s = .ok n ↔ ∃ digits unit name bytes, Written s.toList digits unit ∧
      unit.map Char.toUpper = name.toList ∧
      (name, bytes) ∈ [("B", 1), ("KB", 1024), ("MB", 1024 * 1024), ("GB", 1024 * 1024 * 1024)] ∧
      n = Text.digitsValue digits * bytes) ∧
    (∀ e, readSize s = .error e → e = .malformed s ∨ e = .unknownUnit "\u212aB") ∧
    (readSize s = .error (.unknownUnit "\u212aB") ↔
      ∃ digits unit, Written s.toList digits unit ∧ unit.map Char.toUpper = ['\u212a', 'B']) := by
  have hle {digits unit : List Char} (h : Written s.toList digits unit) :
      digits.length ≤ maxSizeDigits := h.length_le.trans hfew
  refine ⟨fun n => ⟨fun hok => ?_, ?_⟩, fun e he => ?_, fun hkelvin => ?_, ?_⟩
  · obtain ⟨digits, unit, name, bytes, hwritten, hunit, hname, hread⟩ | ⟨_, _, _, _, hread⟩
      | hread := readSize_cases hfew
    · exact ⟨digits, unit, name, bytes, hwritten, hunit, hname,
        Except.ok.inj (hok.symm.trans hread)⟩
    · exact absurd (hok.symm.trans hread) (by simp)
    · exact absurd (hok.symm.trans hread) (by simp)
  · rintro ⟨digits, unit, name, bytes, hwritten, hunit, hname, rfl⟩
    exact hwritten.readSize_ok hunit hname (hle hwritten)
  · obtain ⟨_, _, _, _, _, _, _, hread⟩ | ⟨_, _, _, _, hread⟩ | hread := readSize_cases hfew
    · exact absurd (he.symm.trans hread) (by simp)
    · exact .inr (Except.error.inj (he.symm.trans hread))
    · exact .inl (Except.error.inj (he.symm.trans hread))
  · obtain ⟨_, _, _, _, _, _, _, hread⟩ | ⟨digits, unit, hwritten, hunit, -⟩ | hread :=
      readSize_cases hfew
    · exact absurd (hkelvin.symm.trans hread) (by simp)
    · exact ⟨digits, unit, hwritten, hunit⟩
    · exact absurd (hkelvin.symm.trans hread) (by simp)
  · rintro ⟨digits, unit, hwritten, hunit⟩
    exact hwritten.readSize_kelvin hunit (hle hwritten)

/-- Twelve kilobytes, in Arabic digits and with white space everywhere. -/
theorem readSize_exact_of_twelve :
    (" \u0661\u0662\tkB\n".toList.filter isDigit).length ≤ 4300 ∧
    readSize " \u0661\u0662\tkB\n" = .ok 12288 := by
  have hfew : (" \u0661\u0662\tkB\n".toList.filter isDigit).length ≤ 4300 := by decide
  refine ⟨hfew, ((readSize_exact hfew).1 12288).mpr ⟨['\u0661', '\u0662'], ['k', 'B'], "KB", 1024,
    ⟨⟨[' '], ['\t'], ['\n'], rfl, List.all_eq_true.mp (by decide)⟩, by simp,
      List.all_eq_true.mp (by decide)⟩, rfl, by simp, by decide⟩⟩

/-- A kilobyte with a Kelvin sign is neither read nor malformed. -/
theorem not_readSize_exact_of_kelvin :
    ("1\u212aB".toList.filter isDigit).length ≤ 4300 ∧
    ∀ n, readSize "1\u212aB" ≠ .ok n ∧ readSize "1\u212aB" ≠ .error (.malformed "1\u212aB") := by
  have hread : readSize "1\u212aB" = .error (.unknownUnit "\u212aB") := by decide
  rw [hread]
  exact ⟨by decide, by simp⟩

end EntityGraph.Log
