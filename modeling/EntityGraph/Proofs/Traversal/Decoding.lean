import EntityGraph.Proofs.Traversal.Bindings
import EntityGraph.Proofs.Traversal.Quoting
import EntityGraph.Traversal.Match
/-!
The script of a keyword search can be read in one way only.

* `readLiteral_append`: a literal is read back, whatever it holds and whatever follows it.
* `literalChars_append_inj`, `predicateOf_append_inj`: literals and conditions are prefix-free, in
  the strengthened form that they also determine the rest of the script. The induction goes over two
  queries at once; conditions of different shapes differ in the name of their first step.
* `script_determines_search`: the script of a search and the operation that it stands for say the
  same.
-/

namespace EntityGraph.Traversal

/-! ### Literals -/

/-- A literal is read back, whatever it holds and whatever follows it. -/
lemma readLiteral_append (value rest : List Char) :
    readLiteral (escapeChars value ++ '\'' :: rest) = some (value, rest) :=
  (decodes_escapeChars value).readLiteral rest

/-- Literals are prefix-free: a literal determines its value and the rest of the script. -/
lemma literalChars_append_inj {v w : String} {s t : List Char}
    (h : literalChars v ++ s = literalChars w ++ t) : v = w ∧ s = t := by
  simp only [literalChars, List.cons_append, List.append_assoc, List.nil_append, List.cons.injEq,
    true_and] at h
  have hread := readLiteral_append v.toList s
  rw [h, readLiteral_append, Option.some.injEq, Prod.mk.injEq] at hread
  exact ⟨String.toList_inj.mp hread.1.symm, hread.2.symm⟩

/-! ### Conditions -/

/-- The parts of the condition of a term. -/
lemma termPredicate_eq (field value : String) : termPredicate field value
    = "__.in('appears_in').hasLabel('entity').has(" ++ quoteLiteral field ++ ", "
      ++ quoteLiteral value ++ ")" := rfl

lemma toList_predicateOf_term (t : Term) : (predicateOf (.term t)).toList
    = "__.in('appears_in').hasLabel('entity').has(".toList
      ++ (literalChars t.field ++ (", ".toList ++ (literalChars t.value ++ ")".toList))) := by
  simp only [predicateOf, termPredicate_eq, toList_quoteLiteral, String.toList_append,
    List.append_assoc]

lemma toList_predicateOf_and (l r : Query) : (predicateOf (.and l r)).toList
    = "__.and(".toList
      ++ ((predicateOf l).toList ++ (", ".toList ++ ((predicateOf r).toList ++ ")".toList))) := by
  simp only [predicateOf, String.toList_append, List.append_assoc]

lemma toList_predicateOf_or (l r : Query) : (predicateOf (.or l r)).toList
    = "__.or(".toList
      ++ ((predicateOf l).toList ++ (", ".toList ++ ((predicateOf r).toList ++ ")".toList))) := by
  simp only [predicateOf, String.toList_append, List.append_assoc]

lemma toList_predicateOf_not (x : Query) : (predicateOf (.not x)).toList
    = "__.not(".toList ++ ((predicateOf x).toList ++ ")".toList) := by
  simp only [predicateOf, String.toList_append, List.append_assoc]

/-- Two parts, each determined by what begins with it, with a comma between them and a parenthesis
after them. -/
lemma operands_append_inj {l l' r r' s t : List Char} {P Q : Prop}
    (hl : ∀ s t, l ++ s = l' ++ t → P ∧ s = t) (hr : ∀ s t, r ++ s = r' ++ t → Q ∧ s = t)
    (h : l ++ (", ".toList ++ (r ++ (")".toList ++ s)))
      = l' ++ (", ".toList ++ (r' ++ (")".toList ++ t)))) : P ∧ Q ∧ s = t := by
  obtain ⟨hP, hright⟩ := hl _ _ h
  obtain ⟨hQ, hrest⟩ := hr _ _ (List.append_cancel_left hright)
  exact ⟨hP, hQ, List.append_cancel_left hrest⟩

/-- Conditions are prefix-free: a condition determines its query and the rest of the script. -/
lemma predicateChars_append_inj {a b : Query} {s t : List Char}
    (h : (predicateOf a).toList ++ s = (predicateOf b).toList ++ t) : a = b ∧ s = t := by
  induction a generalizing b s t with
  | term u =>
      cases b with
      | term u' =>
          simp only [toList_predicateOf_term, List.append_assoc] at h
          have hrest := List.append_cancel_left h
          obtain ⟨hfield, hvalue, hst⟩ := operands_append_inj
            (fun _ _ => literalChars_append_inj) (fun _ _ => literalChars_append_inj) hrest
          exact ⟨congrArg₂ (fun field value => Query.term ⟨field, value⟩) hfield hvalue, hst⟩
      | and _ _ | or _ _ | not _ => exact absurd h (by simp [predicateOf, termPredicate_eq])
  | and l r ihl ihr =>
      cases b with
      | and l' r' =>
          simp only [toList_predicateOf_and, List.append_assoc] at h
          have hrest := List.append_cancel_left h
          obtain ⟨rfl, rfl, hst⟩ := operands_append_inj (fun _ _ => ihl) (fun _ _ => ihr) hrest
          exact ⟨rfl, hst⟩
      | term _ | or _ _ | not _ => exact absurd h (by simp [predicateOf, termPredicate_eq])
  | or l r ihl ihr =>
      cases b with
      | or l' r' =>
          simp only [toList_predicateOf_or, List.append_assoc] at h
          have hrest := List.append_cancel_left h
          obtain ⟨rfl, rfl, hst⟩ := operands_append_inj (fun _ _ => ihl) (fun _ _ => ihr) hrest
          exact ⟨rfl, hst⟩
      | term _ | and _ _ | not _ => exact absurd h (by simp [predicateOf, termPredicate_eq])
  | not x ih =>
      cases b with
      | not x' =>
          simp only [toList_predicateOf_not, List.append_assoc] at h
          obtain ⟨rfl, hrest⟩ := ih (List.append_cancel_left h)
          exact ⟨rfl, List.append_cancel_left hrest⟩
      | term _ | and _ _ | or _ _ => exact absurd h (by simp [predicateOf, termPredicate_eq])

/-- **Conditions are prefix-free**: a condition determines its query and the rest of the script. -/
theorem predicateOf_append_inj {a b : Query} {s t : String} :
    predicateOf a ++ s = predicateOf b ++ t ↔ a = b ∧ s = t := by
  refine ⟨fun h => ?_, fun ⟨hab, hst⟩ => by rw [hab, hst]⟩
  have hchars : (predicateOf a).toList ++ s.toList = (predicateOf b).toList ++ t.toList := by
    rw [← String.toList_append, h, String.toList_append]
  obtain ⟨hab, hst⟩ := predicateChars_append_inj hchars
  exact ⟨hab, String.toList_inj.mp hst⟩

/-! ### Searches -/

lemma toString_natCast_inj {m n : Nat} : toString (m : Int) = toString (n : Int) ↔ m = n :=
  toString_inj

/-- The parts of a script, associated to the right. -/
lemma documentScript_eq (predicate : String) (limit : Int) : documentScript predicate limit
    = "g.V().hasLabel('document').where(" ++ (predicate
      ++ (").dedup().limit(" ++ (toString limit ++ ").valueMap(true)"))) := by
  rw [← String.append_assoc, ← String.append_assoc, ← String.append_assoc]
  rfl

/-- A script determines its condition and its limit. -/
lemma documentScript_inj {a b : Query} {m n : Int} (hm : 1 ≤ m) (hn : 1 ≤ n) :
    documentScript (predicateOf a) m = documentScript (predicateOf b) n ↔ a = b ∧ m = n := by
  obtain ⟨i, rfl⟩ := Int.eq_ofNat_of_zero_le (Int.le_trans (by decide) hm)
  obtain ⟨j, rfl⟩ := Int.eq_ofNat_of_zero_le (Int.le_trans (by decide) hn)
  rw [documentScript_eq, documentScript_eq, String.append_right_inj, predicateOf_append_inj,
    String.append_right_inj, String.append_left_inj, toString_natCast_inj, Int.natCast_inj]

/-- Different queries are different drafts. -/
lemma ofQuery_injective : Function.Injective Draft.ofQuery := by
  intro a b h
  induction a generalizing b with
  | term t =>
      cases b with
      | term t' =>
          obtain ⟨hfield, hvalue⟩ := Draft.term.inj h
          exact congrArg₂ (fun field value => Query.term ⟨field, value⟩) (Value.str.inj hfield)
            (Value.str.inj hvalue)
      | and _ _ | or _ _ | not _ => exact Draft.noConfusion h
  | and l r ihl ihr =>
      cases b with
      | and l' r' => rw [ihl (Draft.and.inj h).1, ihr (Draft.and.inj h).2]
      | term _ | or _ _ | not _ => exact Draft.noConfusion h
  | or l r ihl ihr =>
      cases b with
      | or l' r' => rw [ihl (Draft.or.inj h).1, ihr (Draft.or.inj h).2]
      | term _ | and _ _ | not _ => exact Draft.noConfusion h
  | not x ih =>
      cases b with
      | not x' => rw [ih (Draft.not.inj h)]
      | term _ | and _ _ | or _ _ => exact Draft.noConfusion h

lemma operation_matching_inj {a b : Query} {m n : Int} :
    (matching a m).operation = (matching b n).operation ↔ a = b ∧ m = n := by
  simp [matching, ofQuery_injective.eq_iff]

/-- For a positive limit, every query is compiled to its condition and its search. -/
lemma compileDraft_ofQuery (q : Query) {n : Int} (hn : 1 ≤ n) :
    compileDraft (.ofQuery q) (.int n) = .ok (predicateOf q, matching q n) := by
  have hlimit : positive "limit" (.int n) = .ok n := by rw [positive, if_pos hn]
  rw [compileDraft, predicateOfDraft_ofQuery, hlimit]
  rfl

/-- **The script determines the search.** A condition determines its query and the rest of the
script, whatever its fields and values hold. Every query with a positive limit is compiled, two
scripts agree only if the queries and the limits do, and so exactly if they stand for one
operation. -/
theorem script_determines_search :
    (∀ (a b : Query) (s t : String),
      predicateOf a ++ s = predicateOf b ++ t ↔ a = b ∧ s = t) ∧
    ∀ (a b : Query) (m n : Int), 1 ≤ m → 1 ≤ n → ∃ x y : Traversal,
      compileDraft (.ofQuery a) (.int m) = .ok (predicateOf a, x) ∧
      compileDraft (.ofQuery b) (.int n) = .ok (predicateOf b, y) ∧
      (x.script = y.script ↔ a = b ∧ m = n) ∧
      (x.script = y.script ↔ x.operation = y.operation) := by
  refine ⟨fun a b s t => predicateOf_append_inj, fun a b m n hm hn => ?_⟩
  have hscript : (matching a m).script = (matching b n).script ↔ a = b ∧ m = n :=
    documentScript_inj hm hn
  exact ⟨matching a m, matching b n, compileDraft_ofQuery a hm, compileDraft_ofQuery b hn, hscript,
    hscript.trans operation_matching_inj.symm⟩

/-- A term whose value copies the syntax around it, and a query of the terms that it seems to
write. -/
theorem script_determines_search_of_value_like_syntax :
    ∃ x y : Traversal,
      compileDraft (.ofQuery (.term
        ⟨"text", "a'), __.in('appears_in').hasLabel('entity').has('text', 'b"⟩)) (.int 5)
        = .ok (predicateOf (.term
            ⟨"text", "a'), __.in('appears_in').hasLabel('entity').has('text', 'b"⟩), x) ∧
      compileDraft (.ofQuery (.and (.term ⟨"text", "a"⟩) (.term ⟨"text", "b"⟩))) (.int 50)
        = .ok (predicateOf (.and (.term ⟨"text", "a"⟩) (.term ⟨"text", "b"⟩)), y) ∧
      x.script ≠ y.script ∧ x.operation ≠ y.operation := by
  obtain ⟨x, y, hx, hy, hscript, hoperation⟩ := script_determines_search.2
    (.term ⟨"text", "a'), __.in('appears_in').hasLabel('entity').has('text', 'b"⟩)
    (.and (.term ⟨"text", "a"⟩) (.term ⟨"text", "b"⟩)) 5 50 (by decide) (by decide)
  have hne : x.script ≠ y.script := fun h => absurd (hscript.mp h).1 (by decide)
  exact ⟨x, y, hx, hy, hne, fun h => hne (hoperation.mpr h)⟩

end EntityGraph.Traversal
