import EntityGraph.Proofs.Relationship.Labels
/-!
The label and the direction of the relationship of two mentions.

* `Table.mem_labels_iff`: the labels of a table are the two fallbacks and the labels of its entries.
* `resolve_alike_swap`: label and direction do not depend on the order of the mentions, even if both
  are mentions of one entity.
* `resolve_label_eq_sameCategory_iff`, `resolve_label_eq_coOccurs_iff`: when the fallbacks are
  taken.
* `resolve_in_either_order`: all that is known about the relationship of two mentions.
-/

namespace EntityGraph.Relationship

namespace Table

variable {table : Table} {label : String}

/-- Taking out repetitions leaves every label there. -/
lemma mem_eraseReps_iff {labels : List String} : label ∈ labels.eraseReps ↔ label ∈ labels := by
  have hloop : ∀ (rest : List String) (last : String) (kept : List String),
      label ∈ List.eraseRepsBy.loop (· == ·) last rest kept ↔
        label ∈ kept ∨ label ∈ last :: rest := by
    intro rest
    induction rest with
    | nil =>
        intro last kept
        simp [List.eraseRepsBy.loop, or_comm]
    | cons next rest ih =>
        intro last kept
        by_cases heq : last = next
        · subst heq
          simp [List.eraseRepsBy.loop, ih]
        · have hne : (last == next) = false := by simpa using heq
          simp only [List.eraseRepsBy.loop, hne, ih, List.mem_cons]
          tauto
  cases labels with
  | nil => rfl
  | cons first rest => exact (hloop rest first []).trans (by simp)

/-- **The labels of a table** are the two fallbacks and the labels of its entries. -/
theorem mem_labels_iff : label ∈ table.labels ↔
    label = sameCategory ∨ label = coOccurs ∨ ∃ c d, (c, d, label) ∈ table := by
  simp [labels, mem_eraseReps_iff]

end Table

variable {a b : Mention} {c d : Category}

/-- **Label and direction do not depend on the order of two mentions.** -/
theorem resolve_alike_swap (a b : Mention) : (resolve a b).Alike (resolve b a) := by
  by_cases hid : a.id = b.id
  · -- both ends have one identity, so the label is all there is to compare
    have hlabel : (resolve a b).label = (resolve b a).label := by
      rcases resolve_swap_cases a b with h | ⟨label, h, h'⟩
      · rw [h]
      · rw [h, h', label_symmetric, label_symmetric]
    have hends : ∀ {r : Resolved} {x y : Mention}, r.Joins x y → x.id = y.id →
        r.source.id = x.id ∧ r.target.id = x.id := by
      rintro r x y (⟨hs, ht⟩ | ⟨hs, ht⟩) hxy
      · rw [hs, ht, hxy]
        exact ⟨rfl, rfl⟩
      · rw [hs, ht, hxy]
        exact ⟨rfl, rfl⟩
    obtain ⟨hs, ht⟩ := hends (resolve_joins a b) hid
    obtain ⟨hs', ht'⟩ := hends (resolve_joins b a) hid.symm
    exact ⟨hlabel, hs.trans (hid.trans hs'.symm), ht.trans (hid.trans ht'.symm)⟩
  · rw [resolve_swap hid]
    exact ⟨rfl, rfl, rfl⟩

/-- What is found in the table has none of the fallback labels. -/
lemma Resolved.InTable.label_not_reserved {r : Resolved} (h : r.InTable) :
    r.label ∉ reservedLabels := by
  obtain ⟨c, d, hlookup, -, -⟩ := h
  exact Table.lookup_standard_not_reserved hlookup

/-- Two mentions are taken for alike exactly if they have one category. -/
lemma resolve_label_eq_sameCategory_iff :
    (resolve a b).label = sameCategory ↔ a.category = b.category := by
  constructor
  · intro h
    rcases resolve_cases a b with ⟨hcategory, -⟩ | hmere | hin
    · exact hcategory
    · rw [hmere, label_symmetric] at h
      exact absurd h (by decide)
    · exact absurd (show _ ∈ reservedLabels from h ▸ by decide) hin.label_not_reserved
  · intro hcategory
    rw [resolve, if_pos hcategory, label_symmetric]

lemma directed?_eq_none_iff {table : Table} :
    directed? table a b c d = none ↔ table.lookup c d = none ∧ table.lookup d c = none := by
  rw [directed?]
  cases table.lookup c d with
  | some label => simp
  | none => simp

/-- Mentions of two categories: what the table says in the order of the ranks. -/
lemma resolve_of_names (hcategory : a.category ≠ b.category) (hc : c.name = a.category)
    (hd : d.name = b.category) : resolve a b = (if c.rank < d.rank then directed? .standard a b c d
      else directed? .standard b a d c).getD (symmetric coOccurs a b) := by
  rw [resolve, if_neg hcategory, ← hc, ← hd, Category.ofName?_name, Category.ofName?_name]

/-- Two mentions are said to occur together exactly if they have different categories and the table
has no entry for these, in either direction. -/
lemma resolve_label_eq_coOccurs_iff : (resolve a b).label = coOccurs ↔
    a.category ≠ b.category ∧ ∀ c d : Category, c.name = a.category → d.name = b.category →
      Table.standard.lookup c d = none ∧ Table.standard.lookup d c = none := by
  constructor
  · intro h
    have hcategory : a.category ≠ b.category := by
      intro heq
      rw [resolve_label_eq_sameCategory_iff.mpr heq] at h
      exact absurd h (by decide)
    refine ⟨hcategory, fun c d hc hd => ?_⟩
    rw [resolve_of_names hcategory hc hd] at h
    cases hfound : (if c.rank < d.rank then directed? .standard a b c d
        else directed? .standard b a d c) with
    | none =>
        split at hfound
        · exact directed?_eq_none_iff.mp hfound
        · exact (directed?_eq_none_iff.mp hfound).symm
    | some r =>
        rw [hfound, Option.getD_some] at h
        have hin : r.InTable := by
          split at hfound
          · exact inTable_of_directed? hc hd hfound
          · exact inTable_of_directed? hd hc hfound
        exact absurd (show r.label ∈ reservedLabels from h ▸ by decide) hin.label_not_reserved
  · rintro ⟨hcategory, hnone⟩
    rcases resolve_cases a b with ⟨heq, -⟩ | hmere | ⟨c, d, hlookup, hs, ht⟩
    · exact absurd heq hcategory
    · rw [hmere, label_symmetric]
    · -- an entry of the table would be one for these categories
      exfalso
      rcases resolve_joins a b with ⟨hsource, htarget⟩ | ⟨hsource, htarget⟩
      · rw [hsource] at hs
        rw [htarget] at ht
        rw [(hnone c d hs.symm ht.symm).1] at hlookup
        exact absurd hlookup (by simp)
      · rw [hsource] at hs
        rw [htarget] at ht
        rw [(hnone d c ht.symm hs.symm).2] at hlookup
        exact absurd hlookup (by simp)

/-- **The relationship of two mentions, whichever comes first.** The label and the identities of the
source and the target do not depend on the order of the mentions, and neither does anything else if
these are mentions of different entities. The relationship joins the two mentions and has one of the
labels of the table or a fallback: one fallback exactly for mentions of one category, the other one
exactly for those of different categories for which the table has no entry in either direction. Any
other label is the one that the table has for the categories of the source and the target. -/
theorem resolve_in_either_order (a b : Mention) :
    (resolve a b).Alike (resolve b a) ∧ (a.id ≠ b.id → resolve a b = resolve b a) ∧
    (resolve a b).Joins a b ∧ (resolve a b).label ∈ Table.standard.labels ∧
    ((resolve a b).label = sameCategory ↔ a.category = b.category) ∧
    ((resolve a b).label ≠ sameCategory → (resolve a b).label ≠ coOccurs →
      ∃ c d, (resolve a b).source.category = c.name ∧ (resolve a b).target.category = d.name ∧
        Table.standard.lookup c d = some (resolve a b).label) ∧
    ((resolve a b).label = coOccurs ↔ a.category ≠ b.category ∧
      ∀ c d : Category, c.name = a.category → d.name = b.category →
        Table.standard.lookup c d = none ∧ Table.standard.lookup d c = none) := by
  refine ⟨resolve_alike_swap a b, resolve_swap, resolve_joins a b, ?_,
    resolve_label_eq_sameCategory_iff, fun hsame hmere => ?_, resolve_label_eq_coOccurs_iff⟩
  · rw [Table.mem_labels_iff]
    rcases resolve_cases a b with ⟨hcategory, -⟩ | hmere | ⟨c, d, hlookup, -, -⟩
    · exact .inl (resolve_label_eq_sameCategory_iff.mpr hcategory)
    · rw [hmere, label_symmetric]
      exact .inr (.inl rfl)
    · exact .inr (.inr ⟨c, d, Table.mem_of_lookup hlookup⟩)
  · rcases resolve_cases a b with ⟨hcategory, -⟩ | heq | ⟨c, d, hlookup, hs, ht⟩
    · exact absurd (resolve_label_eq_sameCategory_iff.mpr hcategory) hsame
    · exact absurd (by rw [heq, label_symmetric]) hmere
    · exact ⟨c, d, hs, ht, hlookup⟩

/-- An event that an organization hosts and sponsors: both directions are in the table, and the one
of the categories in their order is taken, even if the event is named first. -/
theorem resolve_in_either_order_of_sponsor :
    (⟨"Expo", "Event"⟩ : Mention).id ≠ (⟨"Acme", "Organization"⟩ : Mention).id ∧
      resolve ⟨"Expo", "Event"⟩ ⟨"Acme", "Organization"⟩
        = resolve ⟨"Acme", "Organization"⟩ ⟨"Expo", "Event"⟩ ∧
      (resolve ⟨"Expo", "Event"⟩ ⟨"Acme", "Organization"⟩).label = "sponsors" := by
  have hne : (⟨"Expo", "Event"⟩ : Mention).id ≠ (⟨"Acme", "Organization"⟩ : Mention).id := by
    decide +kernel
  obtain ⟨-, hswap, -, -, -, -, -⟩ :=
    resolve_in_either_order ⟨"Expo", "Event"⟩ ⟨"Acme", "Organization"⟩
  exact ⟨hne, hswap hne, by decide +kernel⟩

end EntityGraph.Relationship
