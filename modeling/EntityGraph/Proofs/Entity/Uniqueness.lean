import EntityGraph.Proofs.Entity.Distinct
import Mathlib.Data.Sym.Sym2
/-!
Lists that mention every entity once.

* `Entity.distinctFrom_eq_filter`: what has been seen only takes mentions away.
* `Entity.distinct_append`: behind other mentions, the first mentions are those of entities that
  were not mentioned before.
* `Entity.distinct_of_nodup`: nothing is taken away from a list that mentions no entity twice.
* `Entity.nodup_unordered_pairs`, `Entity.mem_unordered_pairs_iff`: such a list has every two of its
  entities as one pair, in one order.
* `Entity.distinct_mentions_once`: all this of the distinct mentions of a list.
-/

namespace EntityGraph.Entity

variable {es : List Entity}

/-! ### First mentions of lists one after the other -/

lemma distinctFrom_sublist (seen : List String) (es : List Entity) :
    (distinctFrom seen es).Sublist es := by
  induction es generalizing seen with
  | nil => exact List.Sublist.refl _
  | cons e rest ih =>
      rw [distinctFrom]
      split_ifs
      · exact (ih seen).cons e
      · exact (ih _).cons_cons e

/-- More that has been seen takes away mentions of it, and no others. -/
lemma distinctFrom_eq_filter {seen more : List String} (h : seen ⊆ more) (es : List Entity) :
    distinctFrom more es = (distinctFrom seen es).filter fun e => e.id ∉ more := by
  induction es generalizing seen more with
  | nil => rfl
  | cons e rest ih =>
      rw [distinctFrom, distinctFrom]
      by_cases hmore : e.id ∈ more
      · rw [if_pos hmore]
        split_ifs with hseen
        · exact ih h
        · rw [List.filter_cons_of_neg (by simpa using hmore)]
          exact ih (List.cons_subset.mpr ⟨hmore, h⟩)
      · rw [if_neg hmore, if_neg fun hseen => hmore (h hseen),
          List.filter_cons_of_pos (by simpa using hmore), ih (List.cons_subset_cons e.id h)]
        refine congrArg _ (List.filter_congr fun a ha => ?_)
        -- the entity just seen is not mentioned again
        have hne : a.id ≠ e.id := fun heq =>
          (mem_distinctFrom_iff.mp ha).1 (heq ▸ List.mem_cons_self)
        simp [hne]

lemma distinctFrom_append (seen : List String) (xs ys : List Entity) :
    distinctFrom seen (xs ++ ys) = distinctFrom seen xs
      ++ (distinct ys).filter fun e => e.id ∉ xs.map (fun x => x.id) ++ seen := by
  induction xs generalizing seen with
  | nil => exact distinctFrom_eq_filter (List.nil_subset seen) ys
  | cons x xs ih =>
      rw [List.cons_append, distinctFrom, distinctFrom]
      split_ifs with hx
      · rw [ih]
        refine congrArg _ (List.filter_congr fun e _ => ?_)
        have hmem : e.id = x.id → e.id ∈ xs.map (fun x => x.id) ++ seen := fun heq =>
          List.mem_append_right _ (heq ▸ hx)
        rw [decide_eq_decide, List.map_cons, List.cons_append, List.mem_cons,
          or_iff_right_of_imp hmem]
      · rw [ih, List.cons_append]
        refine congrArg _ (congrArg _ (List.filter_congr fun e _ => ?_))
        rw [decide_eq_decide, List.map_cons, List.cons_append, List.mem_cons, List.mem_append,
          List.mem_append, List.mem_cons, or_left_comm]

/-- **The first mentions of two lists** are those of the first list and those of entities that only
the second one mentions. -/
theorem distinct_append (xs ys : List Entity) : distinct (xs ++ ys) = distinct xs
    ++ (distinct ys).filter fun e => e.id ∉ xs.map fun x => x.id := by
  rw [distinct, distinctFrom_append, List.append_nil]
  rfl

/-- A list that mentions no entity twice is left as it is. -/
lemma distinct_of_nodup (h : (es.map fun e => e.id).Nodup) : distinct es = es := by
  induction es with
  | nil => rfl
  | cons e rest ih =>
      rw [List.map_cons, List.nodup_cons] at h
      rw [← List.singleton_append, distinct_append, ih h.2, List.filter_eq_self.mpr]
      · rfl
      · intro a ha
        have hne : a.id ≠ e.id := fun heq => h.1 (heq ▸ List.mem_map_of_mem ha)
        simpa using hne

/-! ### Unordered pairs -/

/-- The two entities of a pair, in no order. -/
def unordered (p : Entity × Entity) : Sym2 String := s(p.1.id, p.2.id)

/-- A list that mentions no entity twice pairs none with itself. -/
lemma ne_of_mem_pairs (h : (es.map fun e => e.id).Nodup) {a b : Entity} (hab : (a, b) ∈ pairs es) :
    a.id ≠ b.id := by
  induction es with
  | nil => exact absurd hab List.not_mem_nil
  | cons e rest ih =>
      rw [List.map_cons, List.nodup_cons] at h
      rw [pairs, List.mem_append, List.mem_map] at hab
      obtain ⟨c, hc, heq⟩ | hab := hab
      · obtain ⟨rfl, rfl⟩ := Prod.mk.inj heq
        exact fun hid => h.1 (hid ▸ List.mem_map_of_mem hc)
      · exact ih h.2 hab

/-- **Every two different entities of a list form a pair**, and nothing else does. -/
theorem mem_unordered_pairs_iff (h : (es.map fun e => e.id).Nodup) {u : Sym2 String} :
    u ∈ (pairs es).map unordered ↔ ¬u.IsDiag ∧ ∀ id ∈ u, id ∈ es.map fun e => e.id := by
  constructor
  · intro hu
    obtain ⟨⟨a, b⟩, hab, rfl⟩ := List.mem_map.mp hu
    obtain ⟨ha, hb⟩ := mem_of_mem_pairs hab
    refine ⟨ne_of_mem_pairs h hab, fun id hid => ?_⟩
    rcases Sym2.mem_iff.mp hid with rfl | rfl
    · exact List.mem_map_of_mem ha
    · exact List.mem_map_of_mem hb
  · rintro ⟨hdiag, hids⟩
    induction u using Sym2.ind with
    | _ i j =>
        obtain ⟨a, ha, rfl⟩ := List.mem_map.mp (hids i (Sym2.mem_mk_left i j))
        obtain ⟨b, hb, rfl⟩ := List.mem_map.mp (hids j (Sym2.mem_mk_right _ j))
        rw [List.mem_map]
        rcases mem_pairs_or_swap ha hb (by simpa using hdiag) with hab | hba
        · exact ⟨(a, b), hab, rfl⟩
        · exact ⟨(b, a), hba, Sym2.eq_swap⟩

/-- **No two entities form two pairs.** -/
theorem nodup_unordered_pairs (h : (es.map fun e => e.id).Nodup) :
    ((pairs es).map unordered).Nodup := by
  induction es with
  | nil => exact List.nodup_nil
  | cons e rest ih =>
      rw [List.map_cons, List.nodup_cons] at h
      rw [pairs, List.map_append, List.map_map, List.nodup_append]
      have hfirst : rest.map (unordered ∘ (e, ·))
          = (rest.map fun x => x.id).map fun id => s(e.id, id) := by
        rw [List.map_map]
        rfl
      refine ⟨?_, ih h.2, ?_⟩
      · rw [hfirst]
        exact h.2.map fun i j hij => Sym2.congr_right.mp hij
      · -- the first entity is in every pair on the left and in none on the right
        rintro u hu v hv rfl
        rw [hfirst] at hu
        obtain ⟨id, -, rfl⟩ := List.mem_map.mp hu
        exact h.1 (((mem_unordered_pairs_iff h.2).mp hv).2 e.id (Sym2.mem_mk_left _ _))

/-- **The distinct mentions of a list mention each of its entities once.** They are some of the
mentions, in their order: the first one of each entity. A second time nothing is taken away; behind
other mentions, those of entities that were mentioned there are. Each two different entities of
the list form one pair of distinct mentions, and there are no other pairs. -/
theorem distinct_mentions_once (es : List Entity) :
    (distinct es).Sublist es ∧
    ((distinct es).map fun e => e.id).Nodup ∧
    (∀ id, id ∈ (distinct es).map (fun e => e.id) ↔ id ∈ es.map fun e => e.id) ∧
    (∀ e, e ∈ distinct es ↔ IsFirst es e) ∧
    distinct (distinct es) = distinct es ∧
    (∀ ys, distinct (es ++ ys) = distinct es
      ++ (distinct ys).filter fun e => e.id ∉ es.map fun x => x.id) ∧
    ((pairs (distinct es)).map unordered).Nodup ∧
    ∀ u : Sym2 String, u ∈ (pairs (distinct es)).map unordered ↔
      ¬u.IsDiag ∧ ∀ id ∈ u, id ∈ es.map fun e => e.id := by
  have hids : ∀ id, id ∈ (distinct es).map (fun e => e.id) ↔ id ∈ es.map fun e => e.id :=
    fun id => by rw [mem_ids_distinct_iff, List.mem_map]
  refine ⟨distinctFrom_sublist [] es, nodup_ids_distinct es, hids, fun e => mem_distinct_iff,
    distinct_of_nodup (nodup_ids_distinct es), distinct_append es,
    nodup_unordered_pairs (nodup_ids_distinct es), fun u => ?_⟩
  simp only [mem_unordered_pairs_iff (nodup_ids_distinct es), hids]

end EntityGraph.Entity
