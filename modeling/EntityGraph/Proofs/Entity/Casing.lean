import EntityGraph.Entity.Basic
import EntityGraph.Proofs.Text.Letters
import Mathlib.Data.List.Forall2
/-!
Letter case and the identity of entities.

Lower-casing looks at the surroundings of a character in one case only: a capital sigma that ends a
word. Whether a place ends a word does not depend on letter case, since a letter is of one class in
all its forms. So letter case can make a difference at such sigmas, and nowhere else.

* `Recased`: texts that differ in letter case alone.
* `lowerEach`: a text whose characters have been lower-cased one by one.
* `finalSigmas`: where a text has a capital sigma that ends a word; `SigmaEndsWord`: some word ends
  in a sigma, capital or not.
* `isFinalSigma_recased`: whether a place ends a word does not depend on letter case.
* `lowerChars_eq_iff`: recased texts have one lower-case form exactly if their final capital sigmas
  are at the same places.
* `vertexId_recased`: what letter case does to the identity of an entity.
-/

namespace EntityGraph

namespace Text

variable {c d : Char} {t u : List Char}

/-- Texts that differ in letter case alone. -/
def Recased : List Char → List Char → Prop := List.Forall₂ SameLetter

instance : DecidableRel Recased := inferInstanceAs (DecidableRel (List.Forall₂ SameLetter))

/-- The characters of a text in lower case, each taken alone. -/
def lowerEach (cs : List Char) : List Char := cs.flatMap fun c => lowerChars [c]

/-- For each character, whether it is a capital sigma that ends a word; the characters already
passed come nearest first. -/
def finalSigmasFrom : List Char → List Char → List Bool
  | _, [] => []
  | before, c :: after =>
    (c == 'Σ' && isFinalSigma before after) :: finalSigmasFrom (c :: before) after

/-- For each character of a text, whether it is a capital sigma that ends a word. -/
def finalSigmas (cs : List Char) : List Bool := finalSigmasFrom [] cs

/-- Some word of the text ends in a sigma, in whatever letter case. -/
def SigmaEndsWord (cs : List Char) : Prop :=
  ∃ before c after, cs = before ++ c :: after ∧ SameLetter c 'Σ' ∧
    isFinalSigma before.reverse after = true

/-! ### Surroundings -/

lemma nearestIsCased_cons (c : Char) (cs : List Char) :
    nearestIsCased (c :: cs) = if isTransparent c then nearestIsCased cs else isCased c := by
  by_cases h : isTransparent c = true
  · rw [if_pos h, nearestIsCased, List.dropWhile_cons_of_pos h, nearestIsCased]
  · rw [if_neg h, nearestIsCased, List.dropWhile_cons_of_neg h]

lemma Recased.nearestIsCased_eq (h : Recased u t) : nearestIsCased u = nearestIsCased t := by
  induction h with
  | nil => rfl
  | cons hletter _ ih =>
      obtain ⟨hcased, htransparent⟩ := hletter.class_eq
      rw [nearestIsCased_cons, nearestIsCased_cons, hcased, htransparent, ih]

/-- Whether a place ends a word does not depend on letter case. -/
lemma isFinalSigma_recased {before before' after after' : List Char}
    (hbefore : Recased before before') (hafter : Recased after after') :
    isFinalSigma before.reverse after = isFinalSigma before'.reverse after' := by
  have hreverse : Recased before.reverse before'.reverse := List.forall₂_reverse_iff.mpr hbefore
  rw [isFinalSigma, isFinalSigma, hreverse.nearestIsCased_eq, hafter.nearestIsCased_eq]

/-! ### Whole texts -/

/-- A character contributes its own lower-case form, unless it is a capital sigma that ends a
word. -/
lemma lowerFrom_cons (before : List Char) (c : Char) (after : List Char) :
    lowerFrom before (c :: after)
      = (if (c == 'Σ' && isFinalSigma before after) = true then ['ς'] else lowerChars [c])
        ++ lowerFrom (c :: before) after := by
  rw [lowerFrom]
  by_cases hc : c = 'Σ'
  · rw [if_pos hc, hc, lowerChars_sigma, beq_self_eq_true, Bool.true_and]
    split <;> rfl
  · rw [if_neg hc, beq_eq_false_iff_ne.mpr hc, Bool.false_and, if_neg Bool.false_ne_true,
      lowerChars_singleton]

/-- The contributions of one letter are equal exactly if both or none are final, and then what
comes behind them is the same. -/
lemma contribution_append_inj (hletter : SameLetter c d) {m n : Bool}
    (hm : m = true → c = 'Σ') (hn : n = true → d = 'Σ') :
    (if m = true then ['ς'] else lowerChars [c]) ++ t
        = (if n = true then ['ς'] else lowerChars [d]) ++ u ↔ m = n ∧ t = u := by
  rw [SameLetter] at hletter
  cases m <;> cases n
  case false.false => simp [hletter]
  case false.true => simp [hletter, hn rfl, lowerChars_sigma]
  case true.false => simp [← hletter, hm rfl, lowerChars_sigma]
  case true.true => simp

lemma lowerFrom_eq_iff {before before' : List Char} (h : Recased u t) :
    lowerFrom before u = lowerFrom before' t
      ↔ finalSigmasFrom before u = finalSigmasFrom before' t := by
  induction h generalizing before before' with
  | nil => simp [lowerFrom, finalSigmasFrom]
  | cons hletter _ ih =>
      rw [lowerFrom_cons, lowerFrom_cons, finalSigmasFrom, finalSigmasFrom, List.cons.injEq, ← ih]
      exact contribution_append_inj hletter (by simp +contextual) (by simp +contextual)

/-- **Recased texts have one lower-case form** exactly if their final capital sigmas are at the
same places. -/
lemma lowerChars_eq_iff (h : Recased u t) :
    lowerChars u = lowerChars t ↔ finalSigmas u = finalSigmas t :=
  lowerFrom_eq_iff h

/-- A text without final capital sigmas is lower-cased character by character. -/
lemma lowerFrom_eq_lowerEach_iff {before : List Char} (cs : List Char) :
    lowerFrom before cs = lowerEach cs ↔ true ∉ finalSigmasFrom before cs := by
  induction cs generalizing before with
  | nil => simp [lowerFrom, lowerEach, finalSigmasFrom]
  | cons c cs ih =>
      have hstep := contribution_append_inj (t := lowerFrom (c :: before) cs) (u := lowerEach cs)
        (rfl : SameLetter c c) (m := c == 'Σ' && isFinalSigma before cs) (n := false)
        (by simp +contextual) (by simp)
      have heach : lowerEach (c :: cs) = lowerChars [c] ++ lowerEach cs := List.flatMap_cons
      rw [if_neg Bool.false_ne_true, ← heach] at hstep
      rw [lowerFrom_cons, hstep, ih, finalSigmasFrom, List.mem_cons, not_or]
      simp

/-- A text that is lower-cased character by character is in lower case. -/
lemma lowerFrom_lowerEach {before : List Char} (cs : List Char) :
    lowerFrom before (lowerEach cs) = lowerEach cs := by
  have hlowered : ∀ d ∈ lowerEach cs, d ≠ 'Σ' ∧ lowerChar d = [d] := by
    intro d hd
    obtain ⟨c, -, hc⟩ := List.mem_flatMap.mp hd
    rw [lowerChars_singleton] at hc
    exact lowered_of_mem_lowerChar hc
  generalize lowerEach cs = ds at hlowered
  induction ds generalizing before with
  | nil => rfl
  | cons d ds ih =>
      obtain ⟨hd, hds⟩ := List.forall_mem_cons.mp hlowered
      rw [lowerFrom, if_neg hd.1, hd.2, ih hds, List.singleton_append]

lemma Recased.lowerEach_eq (h : Recased u t) : lowerEach u = lowerEach t := by
  induction h with
  | nil => rfl
  | cons hletter _ ih =>
      rw [lowerEach, lowerEach, List.flatMap_cons, List.flatMap_cons, hletter]
      exact congrArg _ ih

lemma Recased.refl (cs : List Char) : Recased cs cs :=
  List.forall₂_same.mpr fun _ _ => rfl

lemma Recased.symm (h : Recased u t) : Recased t u :=
  (List.Forall₂.flip h).imp fun _ _ => Eq.symm

/-- The mark of a character is found at its place. -/
lemma getElem?_finalSigmasFrom (before passed : List Char) (c : Char) (after : List Char) :
    (finalSigmasFrom before (passed ++ c :: after))[passed.length]?
      = some (c == 'Σ' && isFinalSigma (passed.reverse ++ before) after) := by
  induction passed generalizing before with
  | nil => rfl
  | cons x passed ih =>
      rw [List.cons_append, finalSigmasFrom, List.length_cons, List.getElem?_cons_succ, ih,
        List.reverse_cons, List.append_assoc, List.singleton_append]

/-- A text has a final capital sigma exactly if it can be cut at one. -/
lemma true_mem_finalSigmasFrom_iff {before : List Char} (cs : List Char) :
    true ∈ finalSigmasFrom before cs ↔ ∃ passed after, cs = passed ++ 'Σ' :: after ∧
      isFinalSigma (passed.reverse ++ before) after = true := by
  constructor
  · intro h
    induction cs generalizing before with
    | nil => simp [finalSigmasFrom] at h
    | cons c cs ih =>
        rw [finalSigmasFrom, List.mem_cons] at h
        obtain h | h := h
        · obtain ⟨hc, hfinal⟩ : c = 'Σ' ∧ isFinalSigma before cs = true := by simpa using h.symm
          exact ⟨[], cs, by rw [hc, List.nil_append], hfinal⟩
        · obtain ⟨passed, after, rfl, hfinal⟩ := ih h
          exact ⟨c :: passed, after, rfl, by simpa using hfinal⟩
  · rintro ⟨passed, after, rfl, hfinal⟩
    have hmark := getElem?_finalSigmasFrom before passed 'Σ' after
    rw [hfinal, beq_self_eq_true, Bool.true_and] at hmark
    exact List.mem_of_getElem? hmark

/-- Where no word ends in a sigma, no recased text has a final capital sigma. -/
lemma true_notMem_finalSigmas (h : Recased u t) (hends : ¬ SigmaEndsWord t) :
    true ∉ finalSigmas u := by
  intro hmem
  obtain ⟨passed, after, rfl, hfinal⟩ := (true_mem_finalSigmasFrom_iff u).mp hmem
  have hpassed := List.forall₂_take_append _ _ _ h.symm
  obtain ⟨c, after', hletter, hafter, hrest⟩ :=
    List.forall₂_cons_right_iff.mp (List.forall₂_drop_append _ _ _ h.symm)
  refine hends ⟨t.take passed.length, c, after', ?_, hletter, ?_⟩
  · rw [← hrest, List.take_append_drop]
  · rwa [isFinalSigma_recased hpassed hafter, ← List.append_nil passed.reverse]

/-- **All recased texts have one lower-case form** exactly if no word ends in a sigma. -/
lemma forall_recased_lowerChars_eq_iff :
    (∀ u, Recased u t → lowerChars u = lowerChars t) ↔ ¬ SigmaEndsWord t := by
  constructor
  · rintro hsame ⟨before, c, after, rfl, hletter, hfinal⟩
    -- Only one of the capital and the small sigma is marked at this place.
    have hmark : ∀ d, SameLetter d 'Σ' → (d == 'Σ') = (c == 'Σ') := by
      intro d hd
      have hrecased : Recased (before ++ d :: after) (before ++ c :: after) :=
        List.rel_append (Recased.refl before) (.cons (hd.trans hletter.symm) (Recased.refl after))
      have hmarks := (lowerChars_eq_iff hrecased).mp (hsame _ hrecased)
      have hplace := congrArg (·[before.length]?) hmarks
      simpa [finalSigmas, getElem?_finalSigmasFrom, hfinal] using hplace
    have hcapital := hmark 'Σ' rfl
    have hsmall := hmark 'σ' (sameLetter_sigma_iff.mpr (.inr rfl))
    rw [← hcapital] at hsmall
    exact absurd hsmall (by decide)
  · intro hends u hu
    calc lowerChars u = lowerEach u :=
          (lowerFrom_eq_lowerEach_iff u).mpr (true_notMem_finalSigmas hu hends)
      _ = lowerEach t := hu.lowerEach_eq
      _ = lowerChars t :=
          ((lowerFrom_eq_lowerEach_iff t).mpr (true_notMem_finalSigmas (.refl t) hends)).symm

lemma lower_eq_iff {s s' : String} :
    lower s = lower s' ↔ lowerChars s.toList = lowerChars s'.toList :=
  String.ofList_inj

end Text

open Text

/-- **Letter case splits an entity only at a sigma that ends a word.** A recased text names the same
entity if its final capital sigmas are at the same places, and otherwise has another lower-case
form. So all recased texts name one entity where no word ends in a sigma, and do not have one
lower-case form where some word does. Lower-casing character by character keeps the entity if there
is no final capital sigma, and otherwise changes the lower-case form. -/
theorem vertexId_recased (t : String) :
    (∀ u : String, Recased u.toList t.toList →
      (finalSigmas u.toList = finalSigmas t.toList → vertexId u = vertexId t) ∧
      (finalSigmas u.toList ≠ finalSigmas t.toList → lower u ≠ lower t)) ∧
    (¬ SigmaEndsWord t.toList →
      ∀ u : String, Recased u.toList t.toList → vertexId u = vertexId t) ∧
    (SigmaEndsWord t.toList → ∃ u : String, Recased u.toList t.toList ∧ lower u ≠ lower t) ∧
    (true ∉ finalSigmas t.toList → vertexId (String.ofList (lowerEach t.toList)) = vertexId t) ∧
    (true ∈ finalSigmas t.toList → lower (String.ofList (lowerEach t.toList)) ≠ lower t) := by
  have heach : lower (String.ofList (lowerEach t.toList)) = lower t
      ↔ true ∉ finalSigmas t.toList := by
    rw [lower_eq_iff, String.toList_ofList, lowerChars, lowerFrom_lowerEach, finalSigmas,
      ← lowerFrom_eq_lowerEach_iff, eq_comm, lowerChars]
  refine ⟨fun u hu => ⟨fun hmarks => ?_, fun hmarks hlower => ?_⟩, fun hends u hu => ?_,
    fun hends => ?_, fun hmarks => ?_, fun hmarks hlower => heach.mp hlower hmarks⟩
  · rw [vertexId, lower_eq_iff.mpr ((lowerChars_eq_iff hu).mpr hmarks), vertexId]
  · exact hmarks ((lowerChars_eq_iff hu).mp (lower_eq_iff.mp hlower))
  · have hlower := forall_recased_lowerChars_eq_iff.mpr hends u.toList hu
    rw [vertexId, lower_eq_iff.mpr hlower, vertexId]
  · have hsplit := mt forall_recased_lowerChars_eq_iff.mp (not_not_intro hends)
    push Not at hsplit
    obtain ⟨cs, hcs, hne⟩ := hsplit
    refine ⟨String.ofList cs, by rwa [String.toList_ofList], fun hlower => hne ?_⟩
    rwa [lower_eq_iff, String.toList_ofList] at hlower
  · rw [vertexId, heach.mpr hmarks, vertexId]

/-- A street name in Greek capitals, and all but its last letter in small ones: one entity. -/
theorem vertexId_recased_of_odos : vertexId "οδοΣ" = vertexId "ΟΔΟΣ" :=
  ((vertexId_recased "ΟΔΟΣ").1 "οδοΣ" (by decide +kernel)).1 (by decide +kernel)

/-- Two letters in capitals and the same in small ones, which is also what lower-casing character by
character makes of them, are two entities: the capital sigma ends the word. -/
theorem not_vertexId_recased_of_as :
    Recased "ασ".toList "ΑΣ".toList ∧ String.ofList (lowerEach "ΑΣ".toList) = "ασ" ∧
    vertexId "ασ" ≠ vertexId "ΑΣ" := by
  decide +kernel

end EntityGraph
