import EntityGraph.Query.Draft
import Mathlib.Tactic.Common
/-!
What a query asks, and what it answers.

Whether a shortcut is taken depends on the answers, so the value and the terms asked are told
together. What has been asked decides everything: an answer to any other term is never looked at.

* `IsTrue`: the meaning of a query in terms of `and`, `or` and `not` for propositions.
* `asked_and`, `asked_or`, `asked_not`: the terms asked, in order.
* `asked_sublist`: they are among the terms of the query, in the same order.
* `ask_congr`: predicates that agree on them cannot be told apart, and so
  (`holds_congr`) neither can predicates that agree on all terms of the query.
* `Positive.holds_mono`: without negations, more true terms make no query false.
-/

namespace EntityGraph.Query

variable {truth truth' : Term → Bool} {q : Query}

/-- What a query says, if it is known which terms are true. -/
def IsTrue (truth : Term → Prop) : Query → Prop
  | term t => truth t
  | and l r => l.IsTrue truth ∧ r.IsTrue truth
  | or l r => l.IsTrue truth ∨ r.IsTrue truth
  | not x => ¬x.IsTrue truth

/-- The truth value of a query is that of what it says. -/
lemma holds_iff_isTrue (truth : Term → Bool) (q : Query) :
    q.holds truth = true ↔ q.IsTrue fun t => truth t = true := by
  induction q with
  | term t => rfl
  | and l r ihl ihr => rw [holds, Bool.and_eq_true, ihl, ihr, IsTrue]
  | or l r ihl ihr => rw [holds, Bool.or_eq_true, ihl, ihr, IsTrue]
  | not x ih => rw [holds, Bool.not_eq_true', ← Bool.not_eq_true, ih, IsTrue]

/-! ### The terms asked -/

/-- The right side of a conjunction is asked only if the left side holds. -/
lemma asked_and (truth : Term → Bool) (l r : Query) : ((and l r).ask truth).2
    = (l.ask truth).2 ++ if l.holds truth then (r.ask truth).2 else [] := by
  rw [ask, ← ask_fst]
  rcases l.ask truth with ⟨_ | _, asked⟩ <;> simp

/-- The right side of a disjunction is asked only if the left side does not hold. -/
lemma asked_or (truth : Term → Bool) (l r : Query) : ((or l r).ask truth).2
    = (l.ask truth).2 ++ if l.holds truth then [] else (r.ask truth).2 := by
  rw [ask, ← ask_fst]
  rcases l.ask truth with ⟨_ | _, asked⟩ <;> simp

lemma asked_not (truth : Term → Bool) (x : Query) :
    ((not x).ask truth).2 = (x.ask truth).2 := rfl

/-- **Only terms of the query are asked**, in their order. -/
theorem asked_sublist (truth : Term → Bool) (q : Query) : (q.ask truth).2.Sublist q.terms := by
  induction q with
  | term t => exact List.Sublist.refl _
  | and l r ihl ihr =>
      rw [asked_and]
      refine ihl.append ?_
      split_ifs
      · exact ihr
      · exact List.nil_sublist _
  | or l r ihl ihr =>
      rw [asked_or]
      refine ihl.append ?_
      split_ifs
      · exact List.nil_sublist _
      · exact ihr
  | not x ih => exact ih

/-- Evaluation is told by its value and by the terms asked. -/
lemma ask_eq (truth : Term → Bool) (q : Query) :
    q.ask truth = (q.holds truth, (q.ask truth).2) := by
  rw [← ask_fst]

/-- **The answers to the terms asked decide the evaluation.** -/
theorem ask_congr (h : ∀ t ∈ (q.ask truth).2, truth t = truth' t) :
    q.ask truth = q.ask truth' := by
  induction q with
  | term t => rw [ask, ask, h t List.mem_cons_self]
  | and l r ihl ihr =>
      rw [asked_and] at h
      have hl := ihl fun t ht => h t (List.mem_append_left _ ht)
      rw [ask, ask, ← hl, ask_eq truth l]
      cases hvalue : l.holds truth with
      | false => rfl
      | true =>
          rw [hvalue, if_pos rfl] at h
          rw [ihr fun t ht => h t (List.mem_append_right _ ht)]
  | or l r ihl ihr =>
      rw [asked_or] at h
      have hl := ihl fun t ht => h t (List.mem_append_left _ ht)
      rw [ask, ask, ← hl, ask_eq truth l]
      cases hvalue : l.holds truth with
      | true => rfl
      | false =>
          rw [hvalue, if_neg Bool.false_ne_true] at h
          rw [ihr fun t ht => h t (List.mem_append_right _ ht)]
  | not x ih => rw [ask, ask, ih h]

/-- The truth value of a query depends on its terms alone. -/
lemma holds_congr (h : ∀ t ∈ q.terms, truth t = truth' t) : q.holds truth = q.holds truth' := by
  rw [← ask_fst, ← ask_fst, ask_congr fun t ht => h t ((asked_sublist truth q).subset ht)]

/-! ### Queries without negations -/

/-- A query without negations. -/
def Positive : Query → Prop
  | term _ => True
  | and l r | or l r => l.Positive ∧ r.Positive
  | not _ => False

/-- A query without negations still holds when more terms do. -/
lemma Positive.holds_mono {q : Query} (hq : q.Positive)
    (htruth : ∀ t, truth t = true → truth' t = true) (h : q.holds truth = true) :
    q.holds truth' = true := by
  induction q with
  | term t => exact htruth t h
  | and l r ihl ihr =>
      rw [holds, Bool.and_eq_true] at h ⊢
      exact h.imp (ihl hq.1) (ihr hq.2)
  | or l r ihl ihr =>
      rw [holds, Bool.or_eq_true] at h ⊢
      exact h.imp (ihl hq.1) (ihr hq.2)
  | not x => exact hq.elim

/-- **Evaluation asks only the terms of the query and finds its meaning.** The value is true exactly
if what the query says is; the terms asked are a part of its terms, in the same order; every
predicate that agrees with the given one on the terms asked leads to the same value by the same
questions; and without negations, a predicate that is true of more terms does not lead from true to
false. A query evaluated as a tree from outside is asked the same and answers the same. -/
theorem ask_decides (q : Query) (truth : Term → Bool) :
    ((q.ask truth).1 = true ↔ q.IsTrue fun t => truth t = true) ∧
    (q.ask truth).2.Sublist q.terms ∧
    (∀ truth', (∀ t ∈ (q.ask truth).2, truth t = truth' t) → q.ask truth' = q.ask truth) ∧
    (q.Positive → ∀ truth', (∀ t, truth t = true → truth' t = true) →
      (q.ask truth).1 = true → (q.ask truth').1 = true) ∧
    ∀ answer : Asked → Bool, (∀ t : Term, answer t.asked = truth t) →
      (Draft.ofQuery q).ask answer
        = .ok ((q.ask truth).1, (q.ask truth).2.map Term.asked) := by
  refine ⟨?_, asked_sublist truth q, fun truth' h => (ask_congr h).symm,
    fun hq truth' htruth h => ?_, fun answer hanswer => ?_⟩
  · rw [ask_fst, holds_iff_isTrue]
  · rw [ask_fst] at h ⊢
    exact hq.holds_mono htruth h
  · rw [Draft.ask_ofQuery, funext hanswer]
    rfl

end EntityGraph.Query
