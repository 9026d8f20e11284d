import EntityGraph.Graph.Read
import Mathlib.Tactic.Common
/-!
Sorting texts, and things by a key.

* `pairwise_mergeSort_of_nodup`: what is different is in strict order once it is sorted.
  `Graph.pairwise_sorted` is the case of texts.
* `eraseDupsBy_map`: leaving out what has come before, when what is compared stands for something
  else.
* `Value.sortedBy?_map`: sorting by keys whose order is known.
-/

namespace EntityGraph

section Lists

variable {α β : Type} {lt : α → α → Prop} [DecidableRel lt] {xs : List α}

/-- What is different is in strict order once it is sorted. -/
lemma pairwise_mergeSort_of_nodup (htrans : ∀ {a b c}, lt a b → lt b c → lt a c)
    (hirrefl : ∀ a, ¬ lt a a) (htotal : ∀ {a b}, a ≠ b → lt a b ∨ lt b a) (h : xs.Nodup) :
    (xs.mergeSort fun a b => !decide (lt b a)).Pairwise lt := by
  have hle : (xs.mergeSort fun a b => !decide (lt b a)).Pairwise fun a b =>
      (!decide (lt b a)) = true := by
    refine List.pairwise_mergeSort (fun a b c hab hbc => ?_) (fun a b => ?_) xs
    · simp only [Bool.not_eq_true', decide_eq_false_iff_not] at hab hbc ⊢
      intro hca
      by_cases heq : a = b
      · exact hbc (heq ▸ hca)
      · exact hbc (htrans hca ((htotal heq).resolve_right hab))
    · simp only [Bool.or_eq_true, Bool.not_eq_true', decide_eq_false_iff_not]
      by_contra hboth
      rw [not_or, not_not, not_not] at hboth
      exact hirrefl a (htrans hboth.2 hboth.1)
  have hne : (xs.mergeSort fun a b => !decide (lt b a)).Nodup :=
    (List.mergeSort_perm _ _).nodup_iff.mpr h
  refine (hle.and hne).imp fun {a b} ⟨hab, hne⟩ => ?_
  simp only [Bool.not_eq_true', decide_eq_false_iff_not] at hab
  exact (htotal hne).resolve_right hab

/-- What has come before is left out, also when what is compared stands for something else. -/
lemma eraseDupsBy_map [BEq α] {f : α → β} {same : β → β → Bool}
    (h : ∀ a b, same (f a) (f b) = (a == b)) (xs : List α) :
    (xs.map f).eraseDupsBy same = xs.eraseDups.map f := by
  have hloop : ∀ xs kept : List α, List.eraseDupsBy.loop same (xs.map f) (kept.map f)
      = (List.eraseDupsBy.loop (· == ·) xs kept).map f := by
    intro xs
    induction xs with
    | nil => exact fun kept => List.map_reverse.symm
    | cons x xs ih =>
        intro kept
        have hany : (kept.map f).any (same (f x)) = kept.any (x == ·) := by
          rw [List.any_map]
          exact congrArg (List.any kept) (funext fun a => h x a)
        rw [List.map_cons, List.eraseDupsBy.loop, List.eraseDupsBy.loop, hany]
        cases kept.any (x == ·) with
        | true => exact ih kept
        | false => exact ih (x :: kept)
  exact hloop xs []

end Lists

/-! ### Texts -/

/-- Of two different texts one comes before the other. -/
lemma lt_or_lt_of_ne {a b : String} (h : a ≠ b) : a < b ∨ b < a := by
  by_contra hboth
  rw [not_or, String.not_lt, String.not_lt] at hboth
  exact h (String.le_antisymm hboth.2 hboth.1)

namespace Graph

variable {texts : List String} {a : String} {groups : List (List String)}

lemma mem_sorted : a ∈ sorted texts ↔ a ∈ texts := List.mem_mergeSort

lemma mem_flatMap_sorted : a ∈ groups.flatMap sorted ↔ a ∈ groups.flatten := by
  simp only [List.mem_flatMap, List.mem_flatten, mem_sorted]

lemma sorted_eq (texts : List String) :
    sorted texts = texts.mergeSort fun a b => !decide (b < a) := by
  rw [sorted]
  refine congrArg (fun le => texts.mergeSort le) (funext₂ fun a b => ?_)
  rw [← decide_not]
  exact decide_eq_decide.mpr String.not_lt.symm

/-- Different texts are in the strict order of their code points once they are sorted. -/
lemma pairwise_sorted (h : texts.Nodup) : (sorted texts).Pairwise (· < ·) := by
  rw [sorted_eq]
  exact pairwise_mergeSort_of_nodup String.lt_trans String.lt_irrefl lt_or_lt_of_ne h

end Graph

/-! ### Values -/

namespace Value

variable {α β : Type} {f : α → β} {lt : α → α → Bool}

lemma haveOrder_of_isSome {values : List Value}
    (h : ∀ v ∈ values, ∀ w ∈ values, (less? v w).isSome = true) : haveOrder values = true := by
  induction values with
  | nil => rfl
  | cons v rest ih =>
      rw [haveOrder, Bool.and_eq_true, List.all_eq_true]
      exact ⟨fun w hw => h v List.mem_cons_self w (List.mem_cons_of_mem v hw),
        ih fun w hw x hx => h w (List.mem_cons_of_mem v hw) x (List.mem_cons_of_mem v hx)⟩

/-- Things are sorted by their keys if the order of the keys is known. -/
lemma sortedBy?_map (key : β → Value)
    (h : ∀ a b, less? (key (f a)) (key (f b)) = some (lt a b)) (xs : List α) :
    sortedBy? key (xs.map f) = some ((xs.mergeSort fun a b => !lt b a).map f) := by
  have hordered : haveOrder ((xs.map f).map key) = true := by
    refine haveOrder_of_isSome fun v hv w hw => ?_
    rw [List.map_map] at hv hw
    obtain ⟨a, -, rfl⟩ := List.mem_map.mp hv
    obtain ⟨b, -, rfl⟩ := List.mem_map.mp hw
    rw [Function.comp_apply, Function.comp_apply, h]
    rfl
  rw [sortedBy?, if_pos hordered]
  refine congrArg some (List.map_mergeSort fun a _ b _ => ?_).symm
  rw [h]
  rfl

/-- Integers are the same when they are equal. -/
lemma same_int (m n : Int) : same (int m) (int n) = (m == n) := by
  rw [Bool.eq_iff_iff]
  simp [same, quantity?, Quantity.compare?, Quantity.ofInt]

/-- An integer comes before the greater ones. -/
lemma less?_int (m n : Int) : less? (int m) (int n) = some (decide (m < n)) := by
  have hcompare : (compare (m * 1) (n * 1) == .lt) = decide (m < n) := by
    rw [Int.mul_one, Int.mul_one, Bool.eq_iff_iff, beq_iff_eq, decide_eq_true_iff]
    exact Int.compare_eq_lt
  simpa [less?, quantity?, Quantity.compare?, Quantity.ofInt] using hcompare

end Value

end EntityGraph
