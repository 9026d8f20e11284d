import EntityGraph.Proofs.Relationship.Labels
import Mathlib.Data.List.Induction
/-!
Which tables of relationships are admitted.

* `IsSnakeCase`, `IsSpelled`: lower snake case, and the labels that pass for it.
* `WellFormed`: the conditions on the entries of a table, for labels that are spelled in some way.
* `Admits`, `Offends`: what makes an entry acceptable behind others, and what is wrong with it
  otherwise, in the order in which it is checked.
* `isLabel_iff`, `Table.add_eq_ok_iff`, `Table.add_eq_error_iff`: the checks of one entry.
* `Table.build_eq_ok_iff`, `Table.build_eq_error_iff`: the checks of all entries.
* `Table.build_admits_iff`: the well-formed tables are admitted, and all others are refused for
  their first offence.
* `Table.build_admits_line_break`: a line break behind a label is not an offence.
-/

namespace EntityGraph.Relationship

/-- A proposed entry of a table. -/
abbrev Proposal := Endpoint × Endpoint × String

/-- The ordered pair of end points that an entry is for. -/
def Proposal.ends (p : Proposal) : Endpoint × Endpoint := (p.1, p.2.1)

/-- An entry of a table as it was proposed. -/
def proposed (entry : Category × Category × String) : Proposal :=
  (.category entry.1, .category entry.2.1, entry.2.2)

/-- A lower-case letter, a digit or an underscore. -/
def IsSnakeChar (c : Char) : Prop := 'a' ≤ c ∧ c ≤ 'z' ∨ '0' ≤ c ∧ c ≤ '9' ∨ c = '_'

/-- Lower snake case: a lower-case letter, then lower-case letters, digits and underscores. -/
def IsSnakeCase (label : String) : Prop :=
  ∃ first rest, label.toList = first :: rest ∧ ('a' ≤ first ∧ first ≤ 'z') ∧
    ∀ c ∈ rest, IsSnakeChar c

/-- Lower snake case, possibly with one line break behind it. -/
def IsSpelled (label : String) : Prop :=
  ∃ name, IsSnakeCase name ∧ (label = name ∨ label = name ++ "\n")

/-- The conditions on the entries of a table whose labels are to be spelled in some way. -/
structure WellFormed (spelled : String → Prop) (entries : List Proposal) : Prop where
  categories : ∀ p ∈ entries, ∃ s t, p.ends = (.category s, .category t) ∧ s ≠ t
  spelled : ∀ p ∈ entries, spelled p.2.2
  notReserved : ∀ p ∈ entries, p.2.2 ∉ ["same_category", "co_occurs", "appears_in"]
  nodup : (entries.map Proposal.ends).Nodup

/-- An entry is acceptable behind others. -/
structure Admits (before : List Proposal) (entry : Category × Category × String) : Prop where
  ne : entry.1 ≠ entry.2.1
  spelled : IsSpelled entry.2.2
  notReserved : entry.2.2 ∉ ["same_category", "co_occurs", "appears_in"]
  fresh : (proposed entry).ends ∉ before.map Proposal.ends

/-- What is wrong with an entry behind others: the first of five things. -/
inductive Offends (before : List Proposal) : Proposal → TableError → Prop where
  | notCategories {source target : Endpoint} {label : String}
      (h : ¬ ∃ s t, source = .category s ∧ target = .category t) :
      Offends before (source, target, label) (.notCategories source target)
  | sameCategories {c : Category} {label : String} :
      Offends before (.category c, .category c, label) (.sameCategories c)
  | malformedLabel {s t : Category} {label : String} (hne : s ≠ t) (h : ¬ IsSpelled label) :
      Offends before (.category s, .category t, label) (.malformedLabel label)
  | reservedLabel {s t : Category} {label : String} (hne : s ≠ t) (hspelled : IsSpelled label)
      (h : label ∈ ["same_category", "co_occurs", "appears_in"]) :
      Offends before (.category s, .category t, label) (.reservedLabel label)
  | duplicate {s t : Category} {label : String} (hne : s ≠ t) (hspelled : IsSpelled label)
      (hfree : label ∉ ["same_category", "co_occurs", "appears_in"])
      (h : (.category s, .category t) ∈ before.map Proposal.ends) :
      Offends before (.category s, .category t, label) (.duplicate s t)

/-! ### Labels -/

lemma isLowerLetter_iff {c : Char} : isLowerLetter c = true ↔ 'a' ≤ c ∧ c ≤ 'z' := by
  simp only [isLowerLetter, Bool.and_eq_true, decide_eq_true_eq]

lemma isLabelChar_iff {c : Char} : isLabelChar c = true ↔ IsSnakeChar c := by
  simp only [isLabelChar, isLowerLetter_iff, IsSnakeChar, Char.isDigit, Bool.or_eq_true,
    Bool.and_eq_true, decide_eq_true_eq, beq_iff_eq, or_assoc]
  rfl

/-- Behind the last character a line break is let through. -/
lemma isLabelTail_iff (cs : List Char) : isLabelTail cs = true ↔
    ∃ body, (∀ c ∈ body, IsSnakeChar c) ∧ (cs = body ∨ cs = body ++ ['\n']) := by
  fun_induction isLabelTail cs with
  | case1 => exact iff_of_true rfl ⟨[], by simp, .inl rfl⟩
  | case2 => exact iff_of_true rfl ⟨[], by simp, .inr rfl⟩
  | case3 c rest hrest ih =>
      rw [Bool.and_eq_true, isLabelChar_iff, ih]
      constructor
      · rintro ⟨hc, body, hbody, rfl | rfl⟩
        · exact ⟨c :: rest, List.forall_mem_cons.mpr ⟨hc, hbody⟩, .inl rfl⟩
        · exact ⟨c :: body, List.forall_mem_cons.mpr ⟨hc, hbody⟩, .inr rfl⟩
      · rintro ⟨body, hbody, h⟩
        cases body with
        | nil =>
            rcases h with h | h
            · exact absurd h (List.cons_ne_nil c rest)
            · obtain ⟨rfl, rfl⟩ := List.cons.inj h
              exact absurd rfl (hrest rfl)
        | cons b body =>
            obtain ⟨hb, hall⟩ := List.forall_mem_cons.mp hbody
            rcases h with h | h
            · obtain ⟨rfl, rfl⟩ := List.cons.inj h
              exact ⟨hb, rest, hall, .inl rfl⟩
            · obtain ⟨rfl, rfl⟩ := List.cons.inj h
              exact ⟨hb, body, hall, .inr rfl⟩

/-- The characters of labels that pass for lower snake case. -/
lemma isSpelled_iff {label : String} : IsSpelled label ↔
    ∃ first rest, label.toList = first :: rest ∧ ('a' ≤ first ∧ first ≤ 'z') ∧
      ∃ body, (∀ c ∈ body, IsSnakeChar c) ∧ (rest = body ∨ rest = body ++ ['\n']) := by
  constructor
  · rintro ⟨name, ⟨first, body, hname, hfirst, hbody⟩, rfl | rfl⟩
    · exact ⟨first, body, hname, hfirst, body, hbody, .inl rfl⟩
    · refine ⟨first, body ++ ['\n'], ?_, hfirst, body, hbody, .inr rfl⟩
      rw [String.toList_append, hname]
      rfl
  · rintro ⟨first, rest, hlabel, hfirst, body, hbody, rfl | rfl⟩
    · exact ⟨label, ⟨first, rest, hlabel, hfirst, hbody⟩, .inl rfl⟩
    · refine ⟨String.ofList (first :: body), ⟨first, body, String.toList_ofList, hfirst, hbody⟩,
        .inr (String.toList_inj.mp ?_)⟩
      rw [hlabel, String.toList_append, String.toList_ofList]
      rfl

/-- A label is checked for lower snake case, up to a line break behind it. -/
lemma isLabel_iff {label : String} : isLabel label = true ↔ IsSpelled label := by
  rw [isSpelled_iff, isLabel]
  cases label.toList with
  | nil => simp
  | cons first rest =>
      rw [Bool.and_eq_true, isLowerLetter_iff, isLabelTail_iff]
      constructor
      · rintro ⟨hfirst, hrest⟩
        exact ⟨first, rest, rfl, hfirst, hrest⟩
      · rintro ⟨first', rest', heq, hfirst, hrest⟩
        obtain ⟨rfl, rfl⟩ := List.cons.inj heq
        exact ⟨hfirst, hrest⟩

/-- The labels in lower snake case are those without a line break among the ones that pass for
it. -/
lemma isSnakeCase_iff {label : String} :
    IsSnakeCase label ↔ IsSpelled label ∧ '\n' ∉ label.toList := by
  have hbreak : ∀ name, IsSnakeCase name → '\n' ∉ name.toList := by
    rintro name ⟨first, rest, hname, hfirst, hrest⟩ hmem
    rw [hname] at hmem
    rcases List.mem_cons.mp hmem with rfl | hmem
    · exact absurd hfirst (by decide)
    · exact absurd (hrest _ hmem) (by unfold IsSnakeChar; decide)
  constructor
  · exact fun h => ⟨⟨label, h, .inl rfl⟩, hbreak label h⟩
  · rintro ⟨⟨name, hname, rfl | rfl⟩, hfree⟩
    · exact hname
    · exact absurd (by rw [String.toList_append]; simp) hfree

/-! ### One entry -/

/-- An entry is acceptable, or something is wrong with it. -/
lemma admits_or_offends (before : List Proposal) (p : Proposal) :
    (∃ entry, proposed entry = p ∧ Admits before entry) ∨ ∃ error, Offends before p error := by
  obtain ⟨source, target, label⟩ := p
  by_cases hcategories : ∃ s t, source = .category s ∧ target = .category t
  swap
  · exact .inr ⟨_, .notCategories hcategories⟩
  obtain ⟨s, t, rfl, rfl⟩ := hcategories
  by_cases hne : s = t
  · subst hne
    exact .inr ⟨_, .sameCategories⟩
  by_cases hspelled : IsSpelled label
  swap
  · exact .inr ⟨_, .malformedLabel hne hspelled⟩
  by_cases hreserved : label ∈ ["same_category", "co_occurs", "appears_in"]
  · exact .inr ⟨_, .reservedLabel hne hspelled hreserved⟩
  by_cases hduplicate : (.category s, .category t) ∈ before.map Proposal.ends
  · exact .inr ⟨_, .duplicate hne hspelled hreserved hduplicate⟩
  · exact .inl ⟨(s, t, label), rfl, hne, hspelled, hreserved, hduplicate⟩

namespace Table

variable {table : Table} {c d : Category} {label : String} {p : Proposal}

lemma lookup_isSome_iff : (table.lookup c d).isSome = true ↔
    (.category c, .category d) ∈ (table.map proposed).map Proposal.ends := by
  simp [lookup, List.find?_isSome, Proposal.ends, proposed]

lemma add_of_admits {entry : Category × Category × String}
    (h : Admits (table.map proposed) entry) :
    table.add (proposed entry).1 (proposed entry).2.1 (proposed entry).2.2
      = .ok (table ++ [entry]) := by
  obtain ⟨s, t, label⟩ := entry
  have hlabel : ¬ (!isLabel label) = true := by simpa using isLabel_iff.mpr h.spelled
  have hfresh : ¬ (table.lookup s t).isSome = true := lookup_isSome_iff.not.mpr h.fresh
  exact (if_neg h.ne).trans <| (if_neg hlabel).trans <| (if_neg h.notReserved).trans <|
    if_neg hfresh

lemma add_of_offends {error : TableError} (h : Offends (table.map proposed) p error) :
    table.add p.1 p.2.1 p.2.2 = .error error := by
  cases h with
  | @notCategories source target label h =>
      cases source with
      | other => rfl
      | category s =>
          cases target with
          | other => rfl
          | category t => exact absurd ⟨s, t, rfl, rfl⟩ h
  | sameCategories => exact if_pos rfl
  | malformedLabel hne h =>
      have hlabel := isLabel_iff.not.mpr h
      exact (if_neg hne).trans (if_pos (by simpa using hlabel))
  | reservedLabel hne hspelled h =>
      have hlabel := isLabel_iff.mpr hspelled
      exact (if_neg hne).trans <| (if_neg (by simpa using hlabel)).trans (if_pos h)
  | duplicate hne hspelled hfree h =>
      have hlabel := isLabel_iff.mpr hspelled
      exact (if_neg hne).trans <| (if_neg (by simpa using hlabel)).trans <|
        (if_neg hfree).trans (if_pos (lookup_isSome_iff.mpr h))

/-- An entry is added exactly if it is acceptable. -/
lemma add_eq_ok_iff {table' : Table} : table.add p.1 p.2.1 p.2.2 = .ok table' ↔
    ∃ entry, proposed entry = p ∧ Admits (table.map proposed) entry ∧
      table' = table ++ [entry] := by
  constructor
  · intro h
    rcases admits_or_offends (table.map proposed) p with ⟨entry, rfl, hadmits⟩ | ⟨error, hoffends⟩
    · exact ⟨entry, rfl, hadmits, Except.ok.inj (h.symm.trans (add_of_admits hadmits))⟩
    · exact nomatch h.symm.trans (add_of_offends hoffends)
  · rintro ⟨entry, rfl, hadmits, rfl⟩
    exact add_of_admits hadmits

/-- An entry is refused exactly for the first thing that is wrong with it. -/
lemma add_eq_error_iff {error : TableError} : table.add p.1 p.2.1 p.2.2 = .error error ↔
    Offends (table.map proposed) p error := by
  refine ⟨fun h => ?_, add_of_offends⟩
  rcases admits_or_offends (table.map proposed) p with ⟨entry, rfl, hadmits⟩ | ⟨other, hoffends⟩
  · exact nomatch h.symm.trans (add_of_admits hadmits)
  · obtain rfl := Except.error.inj (h.symm.trans (add_of_offends hoffends))
    exact hoffends

end Table

/-! ### All entries -/

lemma nodup_ends_concat_iff {before : List Proposal} {p : Proposal} :
    ((before ++ [p]).map Proposal.ends).Nodup ↔
      p.ends ∉ before.map Proposal.ends ∧ (before.map Proposal.ends).Nodup := by
  rw [List.map_append, List.map_singleton, ← List.concat_eq_append]
  exact List.nodup_concat _ _

/-- A well-formed table with one more entry. -/
lemma wellFormed_concat_iff {before : List Proposal} {p : Proposal} :
    WellFormed IsSpelled (before ++ [p]) ↔
      WellFormed IsSpelled before ∧ ∃ entry, proposed entry = p ∧ Admits before entry := by
  have hlast : p ∈ before ++ [p] := List.mem_append_right _ List.mem_cons_self
  constructor
  · intro h
    obtain ⟨s, t, hends, hne⟩ := h.categories p hlast
    obtain ⟨hs, ht⟩ := Prod.mk.inj hends
    obtain ⟨hfresh, hnodup⟩ := nodup_ends_concat_iff.mp h.nodup
    have hbefore : ∀ q ∈ before, q ∈ before ++ [p] := fun q => List.mem_append_left _
    refine ⟨⟨fun q hq => h.categories q (hbefore q hq), fun q hq => h.spelled q (hbefore q hq),
      fun q hq => h.notReserved q (hbefore q hq), hnodup⟩, (s, t, p.2.2), ?_, hne,
      h.spelled p hlast, h.notReserved p hlast, ?_⟩
    · rw [proposed, ← hs, ← ht]
    · rw [hends] at hfresh
      exact hfresh
  · rintro ⟨h, entry, rfl, hadmits⟩
    refine ⟨?_, ?_, ?_, nodup_ends_concat_iff.mpr ⟨hadmits.fresh, h.nodup⟩⟩
    · refine List.forall_mem_append.mpr ⟨h.categories, List.forall_mem_singleton.mpr ?_⟩
      exact ⟨entry.1, entry.2.1, rfl, hadmits.ne⟩
    · refine List.forall_mem_append.mpr ⟨h.spelled, List.forall_mem_singleton.mpr ?_⟩
      exact hadmits.spelled
    · refine List.forall_mem_append.mpr ⟨h.notReserved, List.forall_mem_singleton.mpr ?_⟩
      exact hadmits.notReserved

lemma proposed_injective : Function.Injective proposed := by
  rintro ⟨s, t, label⟩ ⟨s', t', label'⟩ h
  simp only [proposed, Prod.mk.injEq, Endpoint.category.injEq] at h
  obtain ⟨rfl, rfl, rfl⟩ := h
  rfl

lemma WellFormed.exists_map_eq {spelled : String → Prop} {entries : List Proposal}
    (h : WellFormed spelled entries) : ∃ table : Table, table.map proposed = entries := by
  have hall := h.categories
  clear h
  induction entries with
  | nil => exact ⟨[], rfl⟩
  | cons p entries ih =>
      obtain ⟨⟨s, t, hends, -⟩, hrest⟩ := List.forall_mem_cons.mp hall
      obtain ⟨hs, ht⟩ := Prod.mk.inj hends
      obtain ⟨table, rfl⟩ := ih hrest
      exact ⟨(s, t, p.2.2) :: table, by rw [List.map_cons, proposed, ← hs, ← ht]⟩

namespace Table

variable {table : Table} {entries : List Proposal} {p : Proposal} {error : TableError}
  {c d : Category} {label : String}

/-- The next entry is checked against the table of the ones before it. -/
lemma build_concat_of_ok (h : build entries = .ok table) :
    build (entries ++ [p]) = table.add p.1 p.2.1 p.2.2 := by
  rw [build] at h ⊢
  rw [List.foldlM_append, h]
  exact bind_pure (table.add p.1 p.2.1 p.2.2)

/-- Behind an entry that is refused nothing is checked. -/
lemma build_concat_of_error (h : build entries = .error error) :
    build (entries ++ [p]) = .error error := by
  rw [build] at h ⊢
  rw [List.foldlM_append, h]
  rfl

/-- **A table is built exactly from well-formed entries**, and it holds these entries. -/
theorem build_eq_ok_iff : build entries = .ok table ↔
    WellFormed IsSpelled entries ∧ table.map proposed = entries := by
  induction entries using List.reverseRecOn generalizing table with
  | nil =>
      have hnil : build [] = .ok [] := rfl
      have hempty : WellFormed IsSpelled [] := ⟨by simp, by simp, by simp, List.nodup_nil⟩
      rw [hnil, Except.ok.injEq, List.map_eq_nil_iff, and_iff_right hempty, eq_comm]
  | append_singleton entries p ih =>
      constructor
      · intro h
        cases hbuild : build entries with
        | error error => exact nomatch h.symm.trans (build_concat_of_error hbuild)
        | ok before =>
            rw [build_concat_of_ok hbuild] at h
            obtain ⟨entry, rfl, hadmits, rfl⟩ := add_eq_ok_iff.mp h
            obtain ⟨hwell, rfl⟩ := ih.mp hbuild
            exact ⟨wellFormed_concat_iff.mpr ⟨hwell, entry, rfl, hadmits⟩, List.map_append⟩
      · rintro ⟨hwell, hmap⟩
        obtain ⟨hbefore, entry, rfl, hadmits⟩ := wellFormed_concat_iff.mp hwell
        obtain ⟨before, last, rfl, rfl, hlast⟩ := List.map_eq_append_iff.mp hmap
        obtain rfl : last = [entry] := proposed_injective.list_map hlast
        rw [build_concat_of_ok (ih.mpr ⟨hbefore, rfl⟩), add_of_admits hadmits]

lemma exists_build_eq_ok_iff :
    (∃ table, build entries = .ok table) ↔ WellFormed IsSpelled entries := by
  constructor
  · rintro ⟨table, h⟩
    exact (build_eq_ok_iff.mp h).1
  · intro h
    obtain ⟨table, htable⟩ := h.exists_map_eq
    exact ⟨table, build_eq_ok_iff.mpr ⟨h, htable⟩⟩

/-- **Entries are refused for the first offence among them**: all entries before it are well
formed. -/
theorem build_eq_error_iff : build entries = .error error ↔
    ∃ before p after, entries = before ++ p :: after ∧ WellFormed IsSpelled before ∧
      Offends before p error := by
  constructor
  · intro h
    induction entries using List.reverseRecOn with
    | nil => exact nomatch h
    | append_singleton entries p ih =>
        cases hbuild : build entries with
        | error first =>
            obtain rfl := Except.error.inj (h.symm.trans (build_concat_of_error hbuild))
            obtain ⟨before, q, after, rfl, hwell, hoffends⟩ := ih hbuild
            exact ⟨before, q, after ++ [p], by simp, hwell, hoffends⟩
        | ok table =>
            rw [build_concat_of_ok hbuild] at h
            obtain ⟨hwell, rfl⟩ := build_eq_ok_iff.mp hbuild
            exact ⟨table.map proposed, p, [], rfl, hwell, add_eq_error_iff.mp h⟩
  · rintro ⟨before, p, after, rfl, hwell, hoffends⟩
    obtain ⟨table, hbuild⟩ := exists_build_eq_ok_iff.mpr hwell
    obtain ⟨-, rfl⟩ := build_eq_ok_iff.mp hbuild
    induction after using List.reverseRecOn with
    | nil => rw [build_concat_of_ok hbuild, add_of_offends hoffends]
    | append_singleton after q ih =>
        rw [← List.cons_append, ← List.append_assoc]
        exact build_concat_of_error ih

/-- In a table without repetition the label of a pair is the one of its entry. -/
lemma lookup_eq_some_iff (h : ((table.map proposed).map Proposal.ends).Nodup) :
    table.lookup c d = some label ↔ (c, d, label) ∈ table := by
  refine ⟨mem_of_lookup, fun hmem => ?_⟩
  have hsome : (table.lookup c d).isSome = true :=
    lookup_isSome_iff.mpr (List.mem_map_of_mem (List.mem_map_of_mem hmem))
  obtain ⟨found, hfound⟩ := Option.isSome_iff_exists.mp hsome
  rw [List.map_map] at h
  have heq := List.inj_on_of_nodup_map h (mem_of_lookup hfound) hmem rfl
  rw [hfound, (Prod.mk.inj (Prod.mk.inj heq).2).2]

/-- **The well-formed tables are admitted**, up to a line break behind a label. A table that is
admitted holds its entries and nothing else, and all others are refused for the first offence. -/
theorem build_admits_iff (entries : List Proposal) :
    ((∃ table, build entries = .ok table) ↔ WellFormed IsSpelled entries) ∧
    (WellFormed IsSnakeCase entries ↔
      WellFormed IsSpelled entries ∧ ∀ p ∈ entries, '\n' ∉ p.2.2.toList) ∧
    (∀ table, build entries = .ok table →
      table.map proposed = entries ∧
      ∀ s t label, table.lookup s t = some label ↔ (.category s, .category t, label) ∈ entries) ∧
    (∀ error, build entries = .error error ↔
      ∃ before p after, entries = before ++ p :: after ∧ WellFormed IsSpelled before ∧
        Offends before p error) := by
  refine ⟨exists_build_eq_ok_iff, ⟨fun h => ?_, fun ⟨h, hbreak⟩ => ?_⟩, fun table h => ?_,
    fun error => build_eq_error_iff⟩
  · have hlabel := fun p hp => isSnakeCase_iff.mp (h.spelled p hp)
    exact ⟨{ h with spelled := fun p hp => (hlabel p hp).1 }, fun p hp => (hlabel p hp).2⟩
  · exact { h with spelled := fun p hp => isSnakeCase_iff.mpr ⟨h.spelled p hp, hbreak p hp⟩ }
  · obtain ⟨hwell, rfl⟩ := build_eq_ok_iff.mp h
    refine ⟨rfl, fun s t label => (lookup_eq_some_iff hwell.nodup).trans ?_⟩
    exact (List.mem_map_of_injective proposed_injective).symm

/-- Entries for both directions between two categories, one of them with a line break. -/
theorem build_admits_both_directions :
    build [(.category .person, .category .url, "has_site\n"),
        (.category .url, .category .person, "site_of")]
      = .ok [(.person, .url, "has_site\n"), (.url, .person, "site_of")] ∧
    ∀ s t label,
      lookup [(.person, .url, "has_site\n"), (.url, .person, "site_of")] s t = some label ↔
        (.category s, .category t, label) ∈
          [(Endpoint.category .person, Endpoint.category .url, "has_site\n"),
            (.category .url, .category .person, "site_of")] :=
  ⟨rfl, ((build_admits_iff _).2.2.1 _ rfl).2⟩

/-- A label with a line break is admitted, although it is not in lower snake case. -/
theorem build_admits_line_break :
    ¬ ((∃ table, build [(.category .person, .category .url, "has_site\n")] = .ok table) ↔
      WellFormed IsSnakeCase [(.category .person, .category .url, "has_site\n")]) := by
  intro h
  have hbuild : build [(.category .person, .category .url, "has_site\n")]
      = .ok [(.person, .url, "has_site\n")] := rfl
  have hlabel := (h.mp ⟨_, hbuild⟩).spelled _ List.mem_cons_self
  exact (isSnakeCase_iff.mp hlabel).2 (by decide)

end Table

end EntityGraph.Relationship
