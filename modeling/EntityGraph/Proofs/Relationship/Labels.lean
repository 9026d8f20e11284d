import EntityGraph.Proofs.Relationship.Symmetry
import Mathlib.Data.List.Nodup
/-!
The labels of relationships, and what they say about the mentions that they join.

* `Table.lookup_standard_inj`: no two entries of the table have one label.
* `resolve_cases`: a relationship is symmetric, with one of the two fallback labels, or an entry of
  the table in its direction.
* `resolve_label_ne_appearsIn`: the label of appearances is not used for relationships.
* `resolve_congr`: identities and categories of two mentions determine the label of their
  relationship and the identities of its ends.
* `resolve_of_categories`: outside the fallbacks, the categories alone do.
* `exchanged_of_both_ways`: relationships of one label in both directions come from the same
  categories, given the other way round.
-/

namespace EntityGraph.Relationship

namespace Table

variable {c d c' d' : Category} {label : String}

lemma mem_of_lookup {table : Table} (h : table.lookup c d = some label) :
    (c, d, label) ∈ table := by
  obtain ⟨⟨s, t, l⟩, hfind, rfl⟩ := Option.map_eq_some_iff.mp h
  have hends : s = c ∧ t = d := by simpa using List.find?_some hfind
  rw [← hends.1, ← hends.2]
  exact List.mem_of_find?_eq_some hfind

/-- No two entries of the table have one label. -/
lemma nodup_labels_standard : (standard.map fun (_, _, l) => l).Nodup := by
  decide +kernel

lemma lookup_standard_inj (h : standard.lookup c d = some label)
    (h' : standard.lookup c' d' = some label) : c = c' ∧ d = d' := by
  have heq := List.inj_on_of_nodup_map nodup_labels_standard (mem_of_lookup h) (mem_of_lookup h')
    rfl
  simp only [Prod.mk.injEq, and_true] at heq
  exact heq

/-- The table uses none of the reserved labels. -/
lemma lookup_standard_not_reserved (h : standard.lookup c d = some label) :
    label ∉ reservedLabels := by
  have hall : ∀ entry ∈ standard, entry.2.2 ∉ reservedLabels := by decide +kernel
  exact hall (c, d, label) (mem_of_lookup h)

end Table

variable {a b a' b' : Mention}

/-- A relationship is an entry of the table, in the direction of the entry. -/
def Resolved.InTable (r : Resolved) : Prop :=
  ∃ c d, Table.standard.lookup c d = some r.label ∧ r.source.category = c.name ∧
    r.target.category = d.name

lemma inTable_of_directed? {c d : Category} {r : Resolved} (hc : c.name = a.category)
    (hd : d.name = b.category) (h : directed? .standard a b c d = some r) : r.InTable := by
  rw [directed?] at h
  split at h
  · rename_i label hlabel
    cases h
    exact ⟨c, d, hlabel, hc.symm, hd.symm⟩
  · obtain ⟨label, hlabel, rfl⟩ := Option.map_eq_some_iff.mp h
    exact ⟨d, c, hlabel, hd.symm, hc.symm⟩

lemma inTable_getD {found : Option Resolved} (h : ∀ r, found = some r → r.InTable)
    (usual : Resolved) : found.getD usual = usual ∨ (found.getD usual).InTable := by
  cases found with
  | none => exact .inl Option.getD_none
  | some r => exact .inr (h r rfl)

/-- **The three kinds of relationships**: mentions of one category, mentions that merely occur
together, and entries of the table. -/
theorem resolve_cases (a b : Mention) :
    a.category = b.category ∧ resolve a b = symmetric sameCategory a b ∨
    resolve a b = symmetric coOccurs a b ∨ (resolve a b).InTable := by
  rw [resolve]
  split
  · rename_i hcategory
    exact .inl ⟨hcategory, rfl⟩
  split
  · rename_i c d hc hd
    refine .inr (inTable_getD (fun r hr => ?_) _)
    split at hr
    · exact inTable_of_directed? (Category.name_of_ofName? hc) (Category.name_of_ofName? hd) hr
    · exact inTable_of_directed? (Category.name_of_ofName? hd) (Category.name_of_ofName? hc) hr
  · exact .inr (.inl rfl)

@[simp] lemma label_symmetric (label : String) (a b : Mention) :
    (symmetric label a b).label = label := by
  rw [symmetric]
  split <;> rfl

/-- Relationships never have the label of appearances. -/
theorem resolve_label_ne_appearsIn (a b : Mention) : (resolve a b).label ≠ appearsIn := by
  rcases resolve_cases a b with ⟨-, h⟩ | h | ⟨c, d, hlookup, -, -⟩
  · rw [h, label_symmetric]
    decide
  · rw [h, label_symmetric]
    decide
  · intro heq
    have hreserved : appearsIn ∈ reservedLabels := by decide
    exact Table.lookup_standard_not_reserved hlookup (heq ▸ hreserved)

/-! ### Identities and categories are enough -/

/-- Two relationships have one label and join the same entities in the same direction. -/
def Resolved.Alike (r r' : Resolved) : Prop :=
  r.label = r'.label ∧ r.source.id = r'.source.id ∧ r.target.id = r'.target.id

lemma alike_symmetric (label : String) (ha : a.id = a'.id) (hb : b.id = b'.id) :
    (symmetric label a b).Alike (symmetric label a' b') := by
  rw [symmetric, symmetric, ← ha, ← hb]
  split
  · exact ⟨rfl, ha, hb⟩
  · exact ⟨rfl, hb, ha⟩

lemma alike_directed? (table : Table) (c d : Category) (ha : a.id = a'.id) (hb : b.id = b'.id) :
    Option.Rel Resolved.Alike (directed? table a b c d) (directed? table a' b' c d) := by
  rw [directed?, directed?]
  cases table.lookup c d with
  | some label => exact .some ⟨rfl, ha, hb⟩
  | none =>
      cases table.lookup d c with
      | some label => exact .some ⟨rfl, hb, ha⟩
      | none => exact .none

lemma alike_getD {found found' : Option Resolved} {r r' : Resolved}
    (h : Option.Rel Resolved.Alike found found') (hr : r.Alike r') :
    (found.getD r).Alike (found'.getD r') := by
  cases h with
  | some h => exact h
  | none => exact hr

/-- **Identities and categories of two mentions determine their relationship**, apart from the
spelling of the mentions. -/
theorem resolve_congr (ha : a.id = a'.id) (hb : b.id = b'.id) (hac : a.category = a'.category)
    (hbc : b.category = b'.category) : (resolve a b).Alike (resolve a' b') := by
  rw [resolve, resolve, ← hac, ← hbc]
  split
  · exact alike_symmetric sameCategory ha hb
  split
  · refine alike_getD ?_ (alike_symmetric coOccurs ha hb)
    split
    · exact alike_directed? _ _ _ ha hb
    · exact alike_directed? _ _ _ hb ha
  · exact alike_symmetric coOccurs ha hb

/-! ### Categories are enough outside the fallbacks -/

variable {table : Table} {c d : Category} {label : String}

lemma directed?_eq_forward_iff (hne : a ≠ b) :
    directed? table a b c d = some ⟨label, a, b⟩ ↔ table.lookup c d = some label := by
  rw [directed?]
  cases table.lookup c d with
  | some l => simp
  | none => simp [hne.symm]

lemma directed?_eq_backward_iff (hne : a ≠ b) :
    directed? table a b c d = some ⟨label, b, a⟩ ↔
      table.lookup c d = none ∧ table.lookup d c = some label := by
  rw [directed?]
  cases table.lookup c d with
  | some l => simp [hne]
  | none => simp

lemma Resolved.eq_mk {r : Resolved} (hlabel : r.label = label) (hsource : r.source = a)
    (htarget : r.target = b) : r = ⟨label, a, b⟩ := by
  rw [← hlabel, ← hsource, ← htarget]

lemma eq_some_of_getD {found : Option Resolved} {r usual : Resolved} (h : found.getD usual = r)
    (hne : usual ≠ r) : found = some r := by
  cases found with
  | none => exact absurd h hne
  | some r' => exact congrArg some h

/-- **Outside the fallbacks the categories determine the relationship**, whatever the mentions
are. -/
theorem resolve_of_categories (hr : resolve a b = ⟨label, a, b⟩) (hsame : label ≠ sameCategory)
    (hmere : label ≠ coOccurs) (hac : a.category = a'.category) (hbc : b.category = b'.category) :
    resolve a' b' = ⟨label, a', b'⟩ := by
  have hfallback : ∀ {l : String}, label ≠ l → symmetric l a b ≠ ⟨label, a, b⟩ := by
    intro l hl heq
    exact hl (by rw [← label_symmetric l a b, heq])
  have hcategory : a.category ≠ b.category := by
    intro heq
    rw [resolve, if_pos heq] at hr
    exact hfallback hsame hr
  have hne : a ≠ b := fun heq => hcategory (congrArg Mention.category heq)
  have hne' : a' ≠ b' := by
    intro heq
    rw [hac, hbc, heq] at hcategory
    exact hcategory rfl
  rw [resolve, if_neg hcategory] at hr
  rw [resolve, if_neg (by rwa [← hac, ← hbc]), ← hac, ← hbc]
  cases hc : Category.ofName? a.category with
  | none =>
      rw [hc] at hr
      exact absurd hr (hfallback hmere)
  | some c =>
      cases hd : Category.ofName? b.category with
      | none =>
          rw [hc, hd] at hr
          exact absurd hr (hfallback hmere)
      | some d =>
          rw [hc, hd] at hr
          have hfound := eq_some_of_getD hr (hfallback hmere)
          have hfound' : (if c.rank < d.rank then directed? .standard a' b' c d
              else directed? .standard b' a' d c) = some ⟨label, a', b'⟩ := by
            by_cases hlt : c.rank < d.rank
            · rw [if_pos hlt, directed?_eq_forward_iff hne] at hfound
              rw [if_pos hlt, directed?_eq_forward_iff hne']
              exact hfound
            · rw [if_neg hlt, directed?_eq_backward_iff hne.symm] at hfound
              rw [if_neg hlt, directed?_eq_backward_iff hne'.symm]
              exact hfound
          dsimp only
          rw [hfound', Option.getD_some]

/-! ### Both directions -/

/-- The label of a fallback runs from the smaller identity to the larger. -/
lemma le_of_resolve_of_reserved (hr : resolve a b = ⟨label, a, b⟩) (hl : label ∈ reservedLabels) :
    a.id ≤ b.id := by
  have hsymmetric : ∀ l, symmetric l a b = ⟨label, a, b⟩ → a.id ≤ b.id := by
    intro l h
    rw [symmetric] at h
    split at h
    · assumption
    · obtain ⟨-, rfl, -⟩ := Resolved.mk.inj h
      exact String.le_refl _
  rcases resolve_cases a b with ⟨-, h⟩ | h | ⟨c, d, hlookup, -, -⟩
  · exact hsymmetric _ (h ▸ hr)
  · exact hsymmetric _ (h ▸ hr)
  · rw [hr] at hlookup
    exact absurd hl (Table.lookup_standard_not_reserved hlookup)

/-- A relationship that is no fallback is an entry of the table. -/
lemma exists_entry_of_resolve (hr : resolve a b = ⟨label, a, b⟩) (hsame : label ≠ sameCategory)
    (hmere : label ≠ coOccurs) : ∃ c d, Table.standard.lookup c d = some label ∧
      a.category = c.name ∧ b.category = d.name := by
  have hlabel : ∀ l, symmetric l a b = ⟨label, a, b⟩ → label = l := fun l h => by
    rw [← label_symmetric l a b, h]
  rcases resolve_cases a b with ⟨-, h⟩ | h | h
  · exact absurd (hlabel _ (h ▸ hr)) hsame
  · exact absurd (hlabel _ (h ▸ hr)) hmere
  · rwa [hr] at h

/-- **Relationships with one label in both directions** between two entities are no fallbacks, and
their mentions have the same categories the other way round. -/
theorem exchanged_of_both_ways (hne : a.id ≠ b.id) (ha : a'.id = a.id) (hb : b'.id = b.id)
    (hr : resolve a b = ⟨label, a, b⟩) (hr' : resolve b' a' = ⟨label, b', a'⟩) :
    label ≠ sameCategory ∧ label ≠ coOccurs ∧ a.category = b'.category ∧
      b.category = a'.category := by
  have hfallback : label ∉ reservedLabels := by
    intro hl
    have hle := le_of_resolve_of_reserved hr hl
    have hge := le_of_resolve_of_reserved hr' hl
    rw [ha, hb] at hge
    exact hne (String.le_antisymm hle hge)
  have hsame : label ≠ sameCategory := fun heq => hfallback (heq ▸ by decide)
  have hmere : label ≠ coOccurs := fun heq => hfallback (heq ▸ by decide)
  obtain ⟨c, d, hlookup, hac, hbd⟩ := exists_entry_of_resolve hr hsame hmere
  obtain ⟨c', d', hlookup', hbc, had⟩ := exists_entry_of_resolve hr' hsame hmere
  obtain ⟨rfl, rfl⟩ := Table.lookup_standard_inj hlookup hlookup'
  exact ⟨hsame, hmere, hac.trans hbc.symm, hbd.trans had.symm⟩

end EntityGraph.Relationship
