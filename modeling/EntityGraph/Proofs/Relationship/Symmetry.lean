import EntityGraph.Relationship.Resolve
import Mathlib.Tactic.Common
/-!
The relationship of two mentions does not depend on their order.

* `Category.rank_injective`: different categories have different ranks.
* `resolve_ends`: the relationship joins the two mentions.
* `resolve_swap_cases`: the order matters at most for a relationship without direction.
* `resolve_swap`: mentions of different entities have one relationship.
-/

namespace EntityGraph

/-- A category stands at the place of its rank. -/
lemma Category.getElem?_all_rank (c : Category) : Category.all[c.rank]? = some c := by
  cases c <;> rfl

/-- Different categories have different ranks. -/
lemma Category.rank_injective {c d : Category} (h : c.rank = d.rank) : c = d := by
  have hc := c.getElem?_all_rank
  rw [h, d.getElem?_all_rank] at hc
  exact (Option.some.inj hc).symm

namespace Relationship

variable {a b : Mention}

/-- A relationship joins two mentions, in one order or the other. -/
def Resolved.Joins (r : Resolved) (a b : Mention) : Prop :=
  (r.source = a ∧ r.target = b) ∨ (r.source = b ∧ r.target = a)

lemma Resolved.Joins.symm {r : Resolved} (h : r.Joins a b) : r.Joins b a := Or.symm h

lemma joins_symmetric (label : String) (a b : Mention) : (symmetric label a b).Joins a b := by
  rw [symmetric]
  split
  · exact .inl ⟨rfl, rfl⟩
  · exact .inr ⟨rfl, rfl⟩

lemma joins_of_directed? {table : Table} {c d : Category} {r : Resolved}
    (h : directed? table a b c d = some r) : r.Joins a b := by
  rw [directed?] at h
  split at h
  · cases h
    exact .inl ⟨rfl, rfl⟩
  · obtain ⟨label, -, rfl⟩ := Option.map_eq_some_iff.mp h
    exact .inr ⟨rfl, rfl⟩

/-- What was found, or else that both merely occur together. -/
lemma joins_getD {found : Option Resolved} (h : ∀ r, found = some r → r.Joins a b) :
    (found.getD (symmetric coOccurs a b)).Joins a b := by
  cases found with
  | none =>
      rw [Option.getD_none]
      exact joins_symmetric coOccurs a b
  | some r => exact h r rfl

/-- The relationship of two mentions joins them. -/
theorem resolve_joins (a b : Mention) : (resolve a b).Joins a b := by
  rw [resolve]
  split
  · exact joins_symmetric sameCategory a b
  split
  · refine joins_getD fun r hr => ?_
    split at hr
    · exact joins_of_directed? hr
    · exact (joins_of_directed? hr).symm
  · exact joins_symmetric coOccurs a b

lemma symmetric_swap (label : String) (hne : a.id ≠ b.id) :
    symmetric label a b = symmetric label b a := by
  rw [symmetric, symmetric]
  by_cases hle : a.id ≤ b.id
  · rw [if_pos hle, if_neg fun hge => hne (String.le_antisymm hle hge)]
  · rw [if_neg hle, if_pos ((String.le_total a.id b.id).resolve_left hle)]

/-- What was found does not depend on the order; otherwise both merely occur together. -/
lemma getD_swap (found : Option Resolved) :
    found.getD (symmetric coOccurs a b) = found.getD (symmetric coOccurs b a) ∨
      ∃ label, found.getD (symmetric coOccurs a b) = symmetric label a b ∧
        found.getD (symmetric coOccurs b a) = symmetric label b a := by
  cases found with
  | none => exact .inr ⟨coOccurs, Option.getD_none, Option.getD_none⟩
  | some r => exact .inl (by rw [Option.getD_some, Option.getD_some])

/-- **The order of two mentions** matters at most for a relationship without direction. -/
theorem resolve_swap_cases (a b : Mention) : resolve a b = resolve b a ∨
    ∃ label, resolve a b = symmetric label a b ∧ resolve b a = symmetric label b a := by
  rw [resolve, resolve]
  by_cases hcategory : a.category = b.category
  · exact .inr ⟨sameCategory, if_pos hcategory, if_pos hcategory.symm⟩
  rw [if_neg hcategory, if_neg (Ne.symm hcategory)]
  cases hc : Category.ofName? a.category with
  | none => exact .inr ⟨coOccurs, rfl, by cases Category.ofName? b.category <;> rfl⟩
  | some c =>
      cases hd : Category.ofName? b.category with
      | none => exact .inr ⟨coOccurs, rfl, rfl⟩
      | some d =>
          have hrank : c.rank ≠ d.rank := by
            intro heq
            apply hcategory
            rw [← Category.name_of_ofName? hc, ← Category.name_of_ofName? hd,
              Category.rank_injective heq]
          -- the table is asked in the order of the ranks, so the same question is asked twice
          have hfound : (if d.rank < c.rank then directed? .standard b a d c
              else directed? .standard a b c d)
              = if c.rank < d.rank then directed? .standard a b c d
                else directed? .standard b a d c := by
            by_cases hlt : c.rank < d.rank
            · rw [if_pos hlt, if_neg (Nat.lt_asymm hlt)]
            · rw [if_neg hlt, if_pos (Nat.lt_of_le_of_ne (Nat.not_lt.mp hlt) hrank.symm)]
          dsimp only
          rw [hfound]
          exact getD_swap _

/-- Mentions of different entities have one relationship, whichever comes first. -/
theorem resolve_swap (hne : a.id ≠ b.id) : resolve a b = resolve b a := by
  rcases resolve_swap_cases a b with h | ⟨label, h, h'⟩
  · exact h
  · rw [h, h', symmetric_swap label hne]

end Relationship

end EntityGraph
