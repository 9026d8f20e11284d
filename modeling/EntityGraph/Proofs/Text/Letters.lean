import EntityGraph.Text.Case
import Mathlib.Tactic.Common
import Mathlib.Data.Int.Notation
import Mathlib.Data.List.Flatten
/-!
What the tables of case say of a letter and its lower-case partner.

* `SameLetter`: characters with one lower-case form.
* `codeBits`, `rangeBits`: the tables as sets of bits, in which they are compared at once.
* `TablesFit`: what the tables say of themselves and of each other.
* `shifted_cases`: a character either has no partner, or is in a run that says where it is.
* `SameLetter.class_eq`: a letter is of one class, whatever its case.
* `sameLetter_sigma_iff`: the two forms of the letter sigma.
* `lowered_of_mem_lowerChar`: what lower-casing a character gives is in lower case.
-/

namespace EntityGraph.Text

variable {c d : Char}

/-- Two characters are one letter when they have one lower-case form, each taken alone. -/
def SameLetter (c d : Char) : Prop := lowerChars [c] = lowerChars [d]

instance : DecidableRel SameLetter := fun c d =>
  inferInstanceAs (Decidable (lowerChars [c] = lowerChars [d]))

/-! ### Tables as sets of bits

That one table is part of another is decided in one step on numbers with a bit for each code point;
going through thousands of characters one by one is too much for the kernel. -/

/-- Code points as the bits of a number. -/
def codeBits (codes : List ℕ) : ℕ := codes.foldr (fun n bits => 1 <<< n ||| bits) 0

/-- Ranges of code points as the bits of a number. -/
def rangeBits (ranges : List (ℕ × ℕ)) : ℕ :=
  ranges.foldr (fun r bits => (1 <<< (r.2 + 1 - r.1) - 1) <<< r.1 ||| bits) 0

lemma testBit_codeBits {codes : List ℕ} {n : ℕ} :
    (codeBits codes).testBit n = true ↔ n ∈ codes := by
  induction codes with
  | nil => simp [codeBits]
  | cons m codes ih =>
      rw [codeBits, List.foldr_cons, ← codeBits, Nat.testBit_or, Bool.or_eq_true, ih,
        Nat.one_shiftLeft, Nat.testBit_two_pow, decide_eq_true_iff, List.mem_cons, eq_comm]

lemma testBit_rangeBits {ranges : List (ℕ × ℕ)} {c : Char} :
    (rangeBits ranges).testBit c.toNat = inRanges ranges c := by
  induction ranges with
  | nil => simp [rangeBits, inRanges]
  | cons r ranges ih =>
      rw [rangeBits, List.foldr_cons, ← rangeBits, Nat.testBit_or, ih, Nat.testBit_shiftLeft,
        Nat.one_shiftLeft, Nat.testBit_two_pow_sub_one]
      simp only [inRanges, List.any_cons]
      congr 1
      rw [Bool.eq_iff_iff]
      simp
      omega

/-- Codes that are bits of a table of ranges are in the class of the table. -/
lemma inRanges_of_mem {codes : List ℕ} {ranges : List (ℕ × ℕ)}
    (hpart : codeBits codes &&& rangeBits ranges = codeBits codes) (hc : c.toNat ∈ codes) :
    inRanges ranges c = true := by
  have hbit := testBit_codeBits.mpr hc
  rw [← hpart, Nat.testBit_and, Bool.and_eq_true] at hbit
  rw [← testBit_rangeBits, hbit.2]

/-- The code points of a run. -/
def codes (run : ℕ × ℕ × ℕ × ℤ) : List ℕ :=
  List.range' run.1 ((run.2.1 - run.1) / run.2.2.1 + 1) run.2.2.1

/-- The code points with a lower-case partner. -/
def capitals : List ℕ := lowerSteps.flatMap codes

/-- The partners. -/
def partners : List ℕ :=
  lowerSteps.flatMap fun run => (codes run).map fun n : ℕ => ((n : ℤ) + run.2.2.2).toNat

/-- What the tables of case say of themselves and of each other. -/
structure TablesFit : Prop where
  capitals_cased : codeBits capitals &&& rangeBits casedRanges = codeBits capitals
  partners_cased : codeBits partners &&& rangeBits casedRanges = codeBits partners
  partners_apart : codeBits partners &&& codeBits capitals = 0
  cased_apart : rangeBits casedRanges &&& rangeBits transparentRanges = 0
  partners_valid : ∀ n ∈ partners, n.isValidChar ∧ n ≠ 'İ'.toNat
  runs_ascend : ∀ run ∈ lowerSteps, run.1 ≤ run.2.1 ∧ 0 < run.2.2.1
  /-- One run only is in ASCII. -/
  ascii : ∀ run ∈ lowerSteps, run = (65, 90, 1, 32) ∨ 128 ≤ run.1
  /-- One run only has the small sigma among its partners. -/
  sigma : ∀ run ∈ lowerSteps, run = (931, 939, 1, 32) ∨
    run.2.1 + run.2.2.2 < 'σ'.toNat ∨ 'σ'.toNat < run.1 + run.2.2.2

lemma tables_fit : TablesFit where
  capitals_cased := by decide +kernel
  partners_cased := by decide +kernel
  partners_apart := by decide +kernel
  cased_apart := by decide +kernel
  partners_valid := by decide +kernel
  runs_ascend := by decide +kernel
  ascii := by decide +kernel
  sigma := by decide +kernel

lemma mem_codes_iff {run : ℕ × ℕ × ℕ × ℤ} (hrun : run ∈ lowerSteps) {n : ℕ} :
    n ∈ codes run ↔ run.1 ≤ n ∧ n ≤ run.2.1 ∧ (n - run.1) % run.2.2.1 = 0 := by
  obtain ⟨hle, hstep⟩ := tables_fit.runs_ascend run hrun
  rw [codes, List.mem_range']
  constructor
  · rintro ⟨i, hi, rfl⟩
    have hi' : i * run.2.2.1 ≤ run.2.1 - run.1 :=
      (Nat.le_div_iff_mul_le hstep).mp (Nat.le_of_lt_succ hi)
    rw [Nat.mul_comm] at hi'
    exact ⟨by omega, by omega, by rw [Nat.add_sub_cancel_left, Nat.mul_mod_right]⟩
  · rintro ⟨hfirst, hlast, hmod⟩
    refine ⟨(n - run.1) / run.2.2.1, ?_, ?_⟩
    · exact Nat.lt_succ_of_le (Nat.div_le_div_right (by omega))
    · rw [Nat.mul_div_cancel' (Nat.dvd_of_mod_eq_zero hmod)]
      omega

/-! ### A letter and its partner -/

/-- A character has a partner exactly if its code is in a run. -/
lemma shifted_cases (c : Char) :
    (c.toNat ∉ capitals ∧ shifted lowerSteps c = c) ∨
    ∃ run ∈ lowerSteps, c.toNat ∈ codes run ∧
      (shifted lowerSteps c).toNat = ((c.toNat : ℤ) + run.2.2.2).toNat := by
  rw [shifted]
  split
  · rename_i first last step shift hfind
    have hrun := List.mem_of_find?_eq_some hfind
    have hc : c.toNat ∈ codes (first, last, step, shift) := by
      have h := List.find?_some hfind
      simp only [Bool.and_eq_true, decide_eq_true_iff, beq_iff_eq] at h
      exact (mem_codes_iff hrun).mpr ⟨h.1.1, h.1.2, h.2⟩
    have hvalid := tables_fit.partners_valid _
      (List.mem_flatMap.mpr ⟨_, hrun, List.mem_map_of_mem hc⟩)
    exact .inr ⟨_, hrun, hc, by rw [Char.ofNat, dif_pos hvalid.1]; rfl⟩
  · rename_i hfind
    refine .inl ⟨fun hc => ?_, rfl⟩
    obtain ⟨run, hrun, hmem⟩ := List.mem_flatMap.mp hc
    obtain ⟨hfirst, hlast, hmod⟩ := (mem_codes_iff hrun).mp hmem
    exact absurd (List.find?_eq_none.mp hfind run hrun) (by simp [hfirst, hlast, hmod])

/-- A letter with a partner, and the partner itself, are in the tables. -/
lemma shifted_eq_or_partners (c : Char) :
    (c.toNat ∉ capitals ∧ shifted lowerSteps c = c) ∨
    (c.toNat ∈ capitals ∧ (shifted lowerSteps c).toNat ∈ partners) := by
  obtain h | ⟨run, hrun, hc, hshift⟩ := shifted_cases c
  · exact .inl h
  · refine .inr ⟨List.mem_flatMap.mpr ⟨run, hrun, hc⟩, ?_⟩
    rw [hshift]
    exact List.mem_flatMap.mpr ⟨run, hrun, List.mem_map_of_mem hc⟩

lemma isTransparent_eq_false_of_isCased (h : isCased c = true) : isTransparent c = false := by
  have hbit : (rangeBits casedRanges &&& rangeBits transparentRanges).testBit c.toNat = false := by
    rw [tables_fit.cased_apart, Nat.zero_testBit]
  rw [Nat.testBit_and, testBit_rangeBits, testBit_rangeBits, ← isCased, h, Bool.true_and] at hbit
  exact hbit

/-- A letter and its partner are of the same class. -/
lemma class_shifted (c : Char) : isCased (shifted lowerSteps c) = isCased c ∧
    isTransparent (shifted lowerSteps c) = isTransparent c := by
  obtain ⟨-, heq⟩ | ⟨hc, hshifted⟩ := shifted_eq_or_partners c
  · rw [heq]
    exact ⟨rfl, rfl⟩
  · have hcased : isCased c = true := inRanges_of_mem tables_fit.capitals_cased hc
    have hpartner : isCased (shifted lowerSteps c) = true :=
      inRanges_of_mem tables_fit.partners_cased hshifted
    rw [hcased, hpartner, isTransparent_eq_false_of_isCased hcased,
      isTransparent_eq_false_of_isCased hpartner]
    exact ⟨rfl, rfl⟩

/-- Only a sigma has the small sigma as its partner. -/
lemma eq_of_shifted_eq_sigma (h : shifted lowerSteps c = 'σ') : c = 'Σ' ∨ c = 'σ' := by
  obtain ⟨-, heq⟩ | ⟨run, hrun, hc, hshift⟩ := shifted_cases c
  · exact .inr (heq.symm.trans h)
  · obtain ⟨hfirst, hlast, -⟩ := (mem_codes_iff hrun).mp hc
    have hsigma : 'σ'.toNat = 963 := rfl
    rw [h] at hshift
    obtain rfl | hbelow | habove := tables_fit.sigma run hrun
    · refine .inl (Char.toNat_inj.mp ?_)
      simp only [Char.reduceToNat] at hshift ⊢
      omega
    · omega
    · omega

lemma toLower_of_ascii : ∀ n < 128,
    (Char.ofNat n).toLower.toNat = if 65 ≤ n ∧ n ≤ 90 then n + 32 else n := by
  decide

/-- In ASCII the table of partners holds the capital letters alone. -/
lemma shifted_of_ascii (h : c.toNat < 128) : shifted lowerSteps c = c.toLower := by
  have hlower := toLower_of_ascii c.toNat h
  rw [Char.ofNat_toNat] at hlower
  refine Char.toNat_inj.mp ?_
  obtain ⟨hc, heq⟩ | ⟨run, hrun, hc, hshift⟩ := shifted_cases c
  · have hletter : ¬ (65 ≤ c.toNat ∧ c.toNat ≤ 90) := by
      rintro ⟨hfirst, hlast⟩
      have hrun : (65, 90, 1, 32) ∈ lowerSteps := List.mem_cons_self
      have hmem := (mem_codes_iff hrun).mpr ⟨hfirst, hlast, Nat.mod_one _⟩
      exact hc (List.mem_flatMap.mpr ⟨_, hrun, hmem⟩)
    rw [heq, hlower, if_neg hletter]
  · obtain ⟨hfirst, hlast, -⟩ := (mem_codes_iff hrun).mp hc
    obtain rfl | hbeyond := tables_fit.ascii run hrun
    · have hnat : ((c.toNat : ℤ) + 32).toNat = c.toNat + 32 := by omega
      rw [hshift, hlower, if_pos ⟨hfirst, hlast⟩, hnat]
    · omega

lemma lowerChar_eq (h : c ≠ 'İ') : lowerChar c = [shifted lowerSteps c] := by
  rw [lowerChar, if_neg h]
  split
  · rename_i hascii
    rw [shifted_of_ascii hascii]
  · rfl

lemma lowerChars_singleton (c : Char) : lowerChars [c] = lowerChar c := by
  by_cases h : c = 'Σ'
  · rw [h]
    decide
  · rw [lowerChars, lowerFrom, if_neg h, lowerFrom, List.append_nil]

/-- One letter is of one class, whatever its case. -/
lemma SameLetter.class_eq (h : SameLetter c d) :
    isCased c = isCased d ∧ isTransparent c = isTransparent d := by
  rw [SameLetter, lowerChars_singleton, lowerChars_singleton] at h
  by_cases hc : c = 'İ' <;> by_cases hd : d = 'İ'
  · rw [hc, hd]
    exact ⟨rfl, rfl⟩
  · rw [hc, lowerChar_eq hd] at h
    exact absurd (congrArg List.length h) (by simp [lowerChar])
  · rw [hd, lowerChar_eq hc] at h
    exact absurd (congrArg List.length h) (by simp [lowerChar])
  · rw [lowerChar_eq hc, lowerChar_eq hd] at h
    have hshifted := List.singleton_inj.mp h
    rw [← (class_shifted c).1, ← (class_shifted c).2, hshifted, (class_shifted d).1,
      (class_shifted d).2]
    exact ⟨rfl, rfl⟩

lemma lowerChars_sigma : lowerChars ['Σ'] = ['σ'] := by
  decide

/-- The letter sigma is a capital or a small one; the small one that ends words is a letter of its
own, as it is in lower case already. -/
lemma sameLetter_sigma_iff : SameLetter c 'Σ' ↔ c = 'Σ' ∨ c = 'σ' := by
  constructor
  · intro h
    rw [SameLetter, lowerChars_sigma, lowerChars_singleton] at h
    by_cases hc : c = 'İ'
    · rw [hc] at h
      exact absurd h (by decide)
    · rw [lowerChar_eq hc] at h
      exact eq_of_shifted_eq_sigma (List.singleton_inj.mp h)
  · rintro (rfl | rfl)
    · rfl
    · rw [SameLetter, lowerChars_sigma]
      decide

/-- What stands in the lower-case form of a character is in lower case. -/
lemma lowered_of_mem_lowerChar (h : d ∈ lowerChar c) : d ≠ 'Σ' ∧ lowerChar d = [d] := by
  by_cases hc : c = 'İ'
  · rw [hc, lowerChar] at h
    obtain rfl | rfl : d = 'i' ∨ d = '\u0307' := by simpa using h
    · decide
    · decide
  · rw [lowerChar_eq hc] at h
    obtain rfl := List.mem_singleton.mp h
    have hnot : (shifted lowerSteps c).toNat ∉ capitals := by
      obtain ⟨hc', heq⟩ | ⟨-, hpartner⟩ := shifted_eq_or_partners c
      · rwa [heq]
      · intro hmem
        have hbit : (codeBits partners &&& codeBits capitals).testBit
            (shifted lowerSteps c).toNat = true := by
          rw [Nat.testBit_and, testBit_codeBits.mpr hpartner, testBit_codeBits.mpr hmem,
            Bool.true_and]
        rw [tables_fit.partners_apart, Nat.zero_testBit] at hbit
        exact Bool.false_ne_true hbit
    have hdotted : shifted lowerSteps c ≠ 'İ' := by
      obtain ⟨-, heq⟩ | ⟨-, hpartner⟩ := shifted_eq_or_partners c
      · rwa [heq]
      · exact fun heq => (tables_fit.partners_valid _ hpartner).2 (congrArg Char.toNat heq)
    refine ⟨fun heq => hnot ?_, ?_⟩
    · rw [heq]
      decide
    · rw [lowerChar_eq hdotted]
      obtain ⟨-, heq⟩ | ⟨hmem, -⟩ := shifted_eq_or_partners (shifted lowerSteps c)
      · rw [heq]
      · exact absurd hmem hnot

end EntityGraph.Text
