import EntityGraph.Entity.Basic
import Mathlib.Data.List.Nodup
import Mathlib.Data.Nat.Choose.Basic
import Mathlib.Tactic.Common
/-!
First mentions and pairs.

* `Entity.IsFirst`: a mention is the first one of its entity in a list.
* `Entity.mem_distinct_iff`: the distinct mentions of a list are exactly the first ones.
* `Entity.find?_distinctFrom`: so a search among the distinct mentions finds what a search among all
  mentions finds.
* `Entity.ids_distinct_perm`: the entities among the distinct mentions do not depend on the order.
* `Entity.length_pairs`: the number of pairs.
* `Entity.mem_pairs_or_swap`: every two mentions of different entities form a pair, in one order or
  the other.
* `ne_vertexId`: what does not begin as identities do is the identity of no entity.
-/

namespace EntityGraph

/-- The identities of entities all begin alike. -/
lemma ne_vertexId {id text : String} (h : ¬ "ent-".toList <+: id.toList) : id ≠ vertexId text := by
  rintro rfl
  exact h ⟨_, String.toList_append.symm⟩

namespace Entity

/-- A mention is the first one of its entity in a list. -/
def IsFirst (es : List Entity) (e : Entity) : Prop := es.find? (fun x => x.id == e.id) = some e

variable {es : List Entity} {a b e : Entity}

lemma isFirst_cons_of_eq (h : e.id = a.id) : IsFirst (e :: es) a ↔ e = a := by
  rw [IsFirst, List.find?_cons_of_pos (by simpa using h), Option.some.injEq]

lemma isFirst_cons_of_ne (h : e.id ≠ a.id) : IsFirst (e :: es) a ↔ IsFirst es a := by
  rw [IsFirst, List.find?_cons_of_neg (by simpa using h), IsFirst]

lemma IsFirst.mem (h : IsFirst es e) : e ∈ es := List.mem_of_find?_eq_some h

/-- What a search for an entity finds is its first mention. -/
lemma find?_eq_some_iff {id : String} :
    es.find? (fun x => x.id == id) = some a ↔ IsFirst es a ∧ a.id = id := by
  constructor
  · intro h
    have hid : a.id = id := by simpa using List.find?_some h
    exact ⟨by rwa [IsFirst, hid], hid⟩
  · rintro ⟨h, rfl⟩
    exact h

/-- An entity has one first mention. -/
lemma IsFirst.eq_of_id_eq (ha : IsFirst es a) (hb : IsFirst es b) (hid : a.id = b.id) : a = b := by
  rw [IsFirst, hid] at ha
  exact Option.some.inj (ha.symm.trans hb)

/-- Each entity of a list has a first mention. -/
lemma exists_isFirst (h : e ∈ es) : ∃ a, IsFirst es a ∧ a.id = e.id := by
  have hsome : (es.find? fun x => x.id == e.id).isSome := by
    rw [List.find?_isSome]
    exact ⟨e, h, beq_self_eq_true e.id⟩
  obtain ⟨a, ha⟩ := Option.isSome_iff_exists.mp hsome
  exact ⟨a, find?_eq_some_iff.mp ha⟩

lemma mem_distinctFrom_iff {seen : List String} :
    a ∈ distinctFrom seen es ↔ a.id ∉ seen ∧ IsFirst es a := by
  induction es generalizing seen with
  | nil => simp [distinctFrom, IsFirst]
  | cons e rest ih =>
      rw [distinctFrom]
      by_cases hseen : e.id ∈ seen
      · rw [if_pos hseen, ih]
        refine and_congr_right fun ha => (isFirst_cons_of_ne fun heq => ?_).symm
        exact ha (heq ▸ hseen)
      · rw [if_neg hseen, List.mem_cons, ih, List.mem_cons, not_or]
        by_cases heq : e.id = a.id
        · rw [isFirst_cons_of_eq heq]
          refine ⟨?_, fun h => .inl h.2.symm⟩
          rintro (rfl | h)
          · exact ⟨hseen, rfl⟩
          · exact absurd heq.symm h.1.1
        · rw [isFirst_cons_of_ne heq]
          refine ⟨?_, fun h => .inr ⟨⟨fun h' => heq h'.symm, h.1⟩, h.2⟩⟩
          rintro (rfl | h)
          · exact absurd rfl heq
          · exact ⟨h.1.2, h.2⟩

/-- The distinct mentions of a list are the first mentions. -/
theorem mem_distinct_iff : a ∈ distinct es ↔ IsFirst es a := by
  rw [distinct, mem_distinctFrom_iff]
  simp

/-- Searching the distinct mentions for an entity finds its first mention. -/
lemma find?_distinctFrom {id : String} {seen : List String} (hid : id ∉ seen)
    (es : List Entity) :
    (distinctFrom seen es).find? (fun e => e.id == id) = es.find? fun e => e.id == id := by
  induction es generalizing seen with
  | nil => rfl
  | cons e es ih =>
      rw [distinctFrom]
      by_cases heq : e.id = id
      · subst heq
        rw [if_neg hid, List.find?_cons_of_pos (by simp), List.find?_cons_of_pos (by simp)]
      · rw [List.find?_cons_of_neg (l := es) (by simpa using heq)]
        split
        · exact ih hid
        · rw [List.find?_cons_of_neg (by simpa using heq)]
          exact ih fun hmem => (List.mem_cons.mp hmem).elim (fun h => heq h.symm) hid

/-- No entity is listed twice among the distinct mentions. -/
lemma nodup_ids_distinctFrom (seen : List String) (es : List Entity) :
    ((distinctFrom seen es).map fun e => e.id).Nodup := by
  induction es generalizing seen with
  | nil => exact List.nodup_nil
  | cons e es ih =>
      rw [distinctFrom]
      split
      · exact ih seen
      · rw [List.map_cons, List.nodup_cons]
        refine ⟨fun hmem => ?_, ih _⟩
        obtain ⟨a, ha, hid⟩ := List.mem_map.mp hmem
        exact (mem_distinctFrom_iff.mp ha).1 (hid ▸ List.mem_cons_self)

lemma nodup_ids_distinct (es : List Entity) : ((distinct es).map fun e => e.id).Nodup :=
  nodup_ids_distinctFrom [] es

/-- Each entity of a list is listed among the distinct mentions. -/
lemma mem_ids_distinct_iff {id : String} :
    id ∈ (distinct es).map (fun e => e.id) ↔ ∃ e ∈ es, e.id = id := by
  rw [List.mem_map]
  constructor
  · rintro ⟨a, ha, hid⟩
    exact ⟨a, (mem_distinct_iff.mp ha).mem, hid⟩
  · rintro ⟨e, he, rfl⟩
    obtain ⟨a, ha, hid⟩ := exists_isFirst he
    exact ⟨a, mem_distinct_iff.mpr ha, hid⟩

/-- The distinct entities of a list do not depend on its order. -/
lemma ids_distinct_perm {es' : List Entity} (h : es.Perm es') :
    ((distinct es).map fun e => e.id).Perm ((distinct es').map fun e => e.id) := by
  refine (List.perm_ext_iff_of_nodup (nodup_ids_distinct es)
    (nodup_ids_distinct es')).mpr fun id => ?_
  rw [mem_ids_distinct_iff, mem_ids_distinct_iff]
  exact exists_congr fun e => and_congr_left fun _ => h.mem_iff

/-- The number of pairs. -/
lemma length_pairs (es : List Entity) : (pairs es).length = es.length.choose 2 := by
  induction es with
  | nil => rfl
  | cons e es ih =>
      rw [pairs, List.length_append, List.length_map, ih, List.length_cons, Nat.choose_succ_succ,
        Nat.choose_one_right]

/-- The members of a pair. -/
lemma mem_of_mem_pairs (h : (a, b) ∈ pairs es) : a ∈ es ∧ b ∈ es := by
  induction es with
  | nil => exact absurd h List.not_mem_nil
  | cons e rest ih =>
      rw [pairs, List.mem_append, List.mem_map] at h
      obtain ⟨c, hc, heq⟩ | h := h
      · obtain ⟨rfl, rfl⟩ := Prod.mk.inj heq
        exact ⟨List.mem_cons_self, List.mem_cons_of_mem e hc⟩
      · exact ⟨List.mem_cons_of_mem e (ih h).1, List.mem_cons_of_mem e (ih h).2⟩

/-- Every two mentions of different entities form a pair, in one order or the other. -/
theorem mem_pairs_or_swap (ha : a ∈ es) (hb : b ∈ es) (hne : a.id ≠ b.id) :
    (a, b) ∈ pairs es ∨ (b, a) ∈ pairs es := by
  induction es with
  | nil => exact absurd ha List.not_mem_nil
  | cons e rest ih =>
      have hfirst : ∀ {c : Entity}, c ∈ rest → (e, c) ∈ pairs (e :: rest) := fun hc =>
        List.mem_append_left _ (List.mem_map_of_mem hc)
      rcases List.mem_cons.mp ha with rfl | ha'
      · rcases List.mem_cons.mp hb with rfl | hb'
        · exact absurd rfl hne
        · exact .inl (hfirst hb')
      · rcases List.mem_cons.mp hb with rfl | hb'
        · exact .inr (hfirst ha')
        · exact (ih ha' hb').imp (List.mem_append_right _) (List.mem_append_right _)

end Entity

end EntityGraph
