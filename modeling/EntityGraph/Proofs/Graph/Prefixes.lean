import EntityGraph.Proofs.Graph.Limits
/-!
What a read returns with a smaller limit.

* `Operation.withLimit`: the same read with another limit.
* `limited_of_le`, `firstMatches_of_le`: the two ways in which answers are cut short, after they have
  been found and while they are looked for, both leave the first ones.
* `execute_withLimit`: with a smaller limit a read returns the first rows of what it returns with a
  larger one.
-/

namespace EntityGraph

/-- The same read with another limit. -/
def Operation.withLimit (n : Int) : Operation → Operation
  | matchDocuments query _ => matchDocuments query n
  | entitiesByCategory category subCategory _ => entitiesByCategory category subCategory n
  | entitiesByText pattern category _ => entitiesByText pattern category n
  | relatedEntities entity maxHops _ => relatedEntities entity maxHops n
  | documentsForEntity entity _ => documentsForEntity entity n
  | frequentPairs minimum _ => frequentPairs minimum n
  | commonConnections seeds _ => commonConnections seeds n
  | op => op

lemma Operation.limit?_withLimit {op : Operation} {m n : Int} (h : op.limit? = some n) :
    (op.withLimit m).limit? = some m := by
  cases op <;> first | rfl | exact absurd h (by simp [limit?])

variable {m n : Int}

/-- What is cut to a smaller limit is the first part of what is cut to a larger one. -/
lemma limited_of_le {α : Type} (hm : 0 ≤ m) (hmn : m ≤ n) (xs : List α) :
    limited m xs = (limited n xs).take m.toNat := by
  rw [limited, limited, if_pos hm, if_pos (by omega), List.take_take, Nat.min_eq_left (by omega)]

namespace Graph

variable {g g' : Graph} {rows : List Row}

/-- A search that ends with an earlier match has found the first ones. -/
lemma firstMatches_of_le {query : Draft} {vs found : List Vertex} (hm : 1 ≤ m) (hmn : m ≤ n)
    (h : g.firstMatches query n vs = .ok found) :
    g.firstMatches query m vs = .ok (found.take m.toNat) := by
  induction vs generalizing m n found with
  | nil =>
      obtain rfl := Except.ok.inj h
      rw [List.take_nil]
      rfl
  | cons d rest ih =>
      rw [firstMatches_cons_iff]
      rcases firstMatches_cons_iff.mp h with
        ⟨hfalse, h⟩ | ⟨htrue, hlast, rfl⟩ | ⟨htrue, -, others, hrest, rfl⟩
      · exact .inl ⟨hfalse, ih hm hmn h⟩
      · obtain rfl : m = 1 := by omega
        exact .inr (.inl ⟨htrue, Int.le_refl 1, rfl⟩)
      · by_cases hfirst : m ≤ 1
        · obtain rfl : m = 1 := by omega
          exact .inr (.inl ⟨htrue, Int.le_refl 1, rfl⟩)
        · have hothers := ih (m := m - 1) (by omega) (by omega) hrest
          refine .inr (.inr ⟨htrue, by omega, _, hothers, ?_⟩)
          rw [show m.toNat = (m - 1).toNat + 1 by omega, List.take_succ_cons]

/-- What is cut to a limit after it has been found is cut to a smaller one in the same way. -/
lemma fitting_limited_of_le {α : Type} {read : Except Mismatch (List α)} {f : α → Row}
    (hm : 0 ≤ m) (hmn : m ≤ n)
    (h : (fitting (read.map (limited n))).map (List.map f) = .ok rows) :
    (fitting (read.map (limited m))).map (List.map f) = .ok (rows.take m.toNat) := by
  obtain ⟨found, hfound, rfl⟩ := fitting_inv h
  cases read with
  | error e => exact absurd hfound (by simp [Except.map])
  | ok all =>
      obtain rfl := Except.ok.inj hfound
      show Except.ok ((limited m all).map f) = _
      rw [limited_of_le hm hmn, List.map_take]

/-- The same for what is always found. -/
lemma rows_of_limited_of_le {α : Type} {f : α → Row} (all : List α) (hm : 0 ≤ m) (hmn : m ≤ n)
    (h : Except.ok ((limited n all).map f) = (.ok rows : Except GraphError (List Row))) :
    Except.ok ((limited m all).map f)
      = (.ok (rows.take m.toNat) : Except GraphError (List Row)) := by
  obtain rfl := Except.ok.inj h
  rw [limited_of_le hm hmn, List.map_take]

/-- **A smaller limit returns the first rows** of what a larger one returns. -/
theorem execute_withLimit {op : Operation} (hop : op.limit? = some n) (hm : 1 ≤ m) (hmn : m ≤ n)
    (h : g.execute op = .ok (g', rows)) :
    g' = g ∧ g.execute (op.withLimit m) = .ok (g, rows.take m.toNat) := by
  have hanswer := answer_of_execute hop h
  have hm' : 0 ≤ m := by omega
  refine ⟨?_, ?_⟩
  · rw [execute_of_limit hop, hanswer] at h
    exact (Prod.mk.inj (Except.ok.inj h)).1.symm
  suffices hcut : g.answer (op.withLimit m) = .ok (rows.take m.toNat) by
    rw [execute_of_limit (Operation.limit?_withLimit hop), hcut]
    rfl
  cases op with
  | matchDocuments query limit =>
      obtain rfl := Option.some.inj hop
      rw [answer] at hanswer
      cases hfound : g.matchDocuments query limit with
      | error e =>
          rw [hfound] at hanswer
          exact absurd hanswer (by simp [Except.mapError, Except.map])
      | ok found =>
          rw [hfound] at hanswer
          obtain rfl := Except.ok.inj hanswer
          rw [Operation.withLimit, answer, matchDocuments, firstMatches_of_le hm hmn hfound]
          show Except.ok (vertexRows (found.take m.toNat)) = _
          rw [vertexRows, List.map_take]
          rfl
  | entitiesByCategory category subCategory limit =>
      obtain rfl := Option.some.inj hop
      exact rows_of_limited_of_le _ hm' hmn hanswer
  | entitiesByText pattern category limit =>
      obtain rfl := Option.some.inj hop
      simp only [answer, Operation.withLimit, entitiesByText, bind_pure_comp] at hanswer ⊢
      exact fitting_limited_of_le hm' hmn hanswer
  | relatedEntities entity maxHops limit =>
      obtain rfl := Option.some.inj hop
      exact rows_of_limited_of_le _ hm' hmn hanswer
  | documentsForEntity entity limit =>
      obtain rfl := Option.some.inj hop
      exact rows_of_limited_of_le _ hm' hmn hanswer
  | frequentPairs minimum limit =>
      obtain rfl := Option.some.inj hop
      exact fitting_limited_of_le hm' hmn hanswer
  | commonConnections seeds limit =>
      obtain rfl := Option.some.inj hop
      exact fitting_limited_of_le hm' hmn hanswer
  | upsertVertex | upsertEdge | entitiesInDocument | nothing | loose =>
      exact absurd hop (by simp [Operation.limit?])

end Graph

end EntityGraph
