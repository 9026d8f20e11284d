import EntityGraph.Proofs.Session.Calls
import EntityGraph.Search.Service
/-!
What searches return.

* `Action.execute_of_faultless`: a traversal that no fault strikes is carried out.
* `run_of_faultless`, `runFlat_of_faultless`: a read that no fault strikes returns the rows that the
  graph answers with.
* `graph_execute_of_run`: whatever rows a read returns, the graph has answered with them.
* `Bounds.limit_of_pos`, `Bounds.hops_of_pos`: a search gets the numbers it asks for, up to the
  bounds. `Bounds.limit_inv` says that it has asked for a positive number of rows.
* `needText_of_not_blank`, `needText_of_blank`: a search reads the texts that are not blank.
* `ofExcept_inv`: what is read from an argument has passed its check.
-/

namespace EntityGraph

namespace Action

variable {α : Type} {a : Action α} {v : α} {s s' : Session}

lemma during_of_ok {operation : String}
    (h : a (setOperation (some operation) s) = (.ok v, s')) :
    during operation a s = (.ok v, setOperation none s') := by
  simp only [during, ensuring, h]

/-- A traversal that no fault strikes is carried out. -/
lemma execute_of_faultless {t : Traversal} {g : Graph} {rows : List Row} (hs : s.Faultless)
    (h : s.graph.execute t.operation = .ok (g, rows)) :
    ∃ s', execute t s = (.ok rows, s') ∧ s'.graph = g := by
  obtain ⟨graph, clock, context, faults, replies, language, journal⟩ := s
  have hperform : ∀ fs : List (Option Fault),
      perform t ⟨graph, clock, context, fs, replies, language, journal ++ [.executed t]⟩
        = (.ok rows, ⟨g, clock, context, fs, replies, language, journal ++ [.executed t]⟩) := by
    intro fs
    simp only [perform, h]
  rcases faults with _ | ⟨_ | f, rest⟩
  · exact ⟨_, hperform [], rfl⟩
  · exact ⟨_, hperform rest, rfl⟩
  · exact absurd (hs (some f) List.mem_cons_self) (by simp)

end Action

namespace Search

open EntityGraph.Action

variable {s s' : Session} {t : Traversal} {rows : List Row} {operation : String}

/-- A read that no fault strikes returns the rows that the graph answers with. -/
lemma run_of_faultless (operation : String) (hs : s.Faultless)
    (h : s.graph.execute t.operation = .ok (s.graph, rows)) :
    ∃ s', run operation t s = (.ok rows, s') := by
  obtain ⟨s', hrun, -⟩ := execute_of_faultless (s := setOperation (some operation) s) hs h
  exact ⟨_, by rw [run, bind_of_ok (during_of_ok hrun)]; rfl⟩

/-- The same, with the rows flattened. -/
lemma runFlat_of_faultless (operation : String) (hs : s.Faultless)
    (h : s.graph.execute t.operation = .ok (s.graph, rows)) :
    ∃ s', runFlat operation t s = (.ok (rows.map Row.flatten), s') := by
  obtain ⟨s', hrun⟩ := run_of_faultless operation hs h
  exact ⟨s', by rw [runFlat, bind_of_ok hrun]; rfl⟩

/-- Whatever rows a read returns, the graph has answered with them. -/
lemma graph_execute_of_run (h : run operation t s = (.ok rows, s')) :
    ∃ g, s.graph.execute t.operation = .ok (g, rows) := by
  obtain ⟨rows', s₁, hduring, hlog⟩ := exists_of_bind_ok h
  obtain rfl : rows' = rows := Except.ok.inj (congrArg Prod.fst hlog)
  have hrun : (execute t (setOperation (some operation) s)).1 = .ok rows' :=
    congrArg Prod.fst hduring
  rcases graph_execute_cases t (setOperation (some operation) s) with ⟨⟨e, he⟩, -⟩ | ⟨_, hr, hg⟩
  · rw [he] at hrun
    exact absurd hrun (by simp)
  · rw [Except.ok.inj (hr.symm.trans hrun)] at hg
    exact ⟨_, hg⟩

/-- The same for flattened rows. -/
lemma graph_execute_of_runFlat (h : runFlat operation t s = (.ok rows, s')) :
    ∃ g answer, s.graph.execute t.operation = .ok (g, answer) ∧
      rows = answer.map Row.flatten := by
  obtain ⟨answer, s₁, hrun, hpure⟩ := exists_of_bind_ok h
  obtain ⟨g, hg⟩ := graph_execute_of_run hrun
  exact ⟨g, answer, hg, (Except.ok.inj (congrArg Prod.fst hpure)).symm⟩

/-! ### Arguments -/

lemma ofExcept_positive (name : String) {n : Int} (hn : 1 ≤ n) (s : Session) :
    Action.ofExcept ((positive name (.int n)).mapError Failure.request) s = (.ok n, s) := by
  rw [positive, if_pos hn]
  rfl

lemma discard_positive (name : String) {n : Int} (hn : 1 ≤ n) (s : Session) :
    (discard (Action.ofExcept ((positive name (.int n)).mapError Failure.request)) : Action Unit) s
      = (.ok (), s) :=
  bind_of_ok (f := fun _ => (pure () : Action Unit)) (ofExcept_positive name hn s)

/-- A positive number is cut down to the bound. -/
lemma bounded_of_pos (name title : String) (most : Int) {n : Int} (hn : 1 ≤ n) (s : Session) :
    ∃ s', bounded name title most (.int n) s = (.ok (min n most), s') ∧ s'.graph = s.graph ∧
      s'.faults = s.faults := by
  rw [bounded, bind_of_ok (ofExcept_positive name hn s)]
  by_cases hcapped : most < n
  · rw [if_pos hcapped, Int.min_eq_right (Int.le_of_lt hcapped)]
    exact ⟨_, rfl, rfl, rfl⟩
  · rw [if_neg hcapped, Int.min_eq_left (Int.not_lt.mp hcapped)]
    exact ⟨_, rfl, rfl, rfl⟩

/-- The number of rows that a search gets when it asks for a positive number. -/
lemma Bounds.limit_of_pos (b : Bounds) {n : Int} (hn : 1 ≤ n) (s : Session) :
    ∃ s', b.limit (.int n) s = (.ok (min n b.maxLimit), s') ∧ s'.graph = s.graph ∧
      s'.faults = s.faults :=
  bounded_of_pos "limit" "Limit" b.maxLimit hn s

/-- The number of hops that a search gets when it asks for a positive number. -/
lemma Bounds.hops_of_pos (b : Bounds) {n : Int} (hn : 1 ≤ n) (s : Session) :
    ∃ s', b.hops (.int n) s = (.ok (min n b.maxHops), s') ∧ s'.graph = s.graph ∧
      s'.faults = s.faults :=
  bounded_of_pos "max_hops" "Hop count" b.maxHops hn s

/-- What is read from an argument is what the check of the argument has passed. -/
lemma ofExcept_inv {α : Type} {check : Except RequestError α} {v : α}
    (h : Action.ofExcept (check.mapError Failure.request) s = (.ok v, s')) :
    check = .ok v ∧ s' = s := by
  cases check with
  | ok a =>
      obtain ⟨hv, rfl⟩ := Prod.mk.inj h
      exact ⟨congrArg Except.ok (Except.ok.inj hv), rfl⟩
  | error e => exact absurd (Prod.mk.inj h).1 (by simp)

/-- Only positive integers are positive. -/
lemma positive_inv {name : String} {given : Value} {n : Int} (h : positive name given = .ok n) :
    given = .int n ∧ 1 ≤ n := by
  cases given with
  | int m =>
      by_cases hm : 1 ≤ m
      · rw [positive, if_pos hm] at h
        obtain rfl := Except.ok.inj h
        exact ⟨rfl, hm⟩
      · rw [positive, if_neg hm] at h
        exact absurd h (by simp)
  | _ => exact absurd h (by simp [positive])

/-- A search has asked for a positive number of rows. -/
lemma Bounds.limit_inv {b : Bounds} {limit : Value} {k : Int}
    (h : b.limit limit s = (.ok k, s')) :
    ∃ n, limit = .int n ∧ 1 ≤ n ∧ k = min n b.maxLimit ∧ s'.graph = s.graph := by
  obtain ⟨n, s₁, hpositive, -⟩ := exists_of_bind_ok h
  obtain ⟨rfl, hn⟩ := positive_inv (ofExcept_inv hpositive).1
  obtain ⟨s₂, hlimit, hgraph, -⟩ := b.limit_of_pos hn s
  rw [hlimit, Prod.mk.injEq, Except.ok.injEq] at h
  obtain ⟨rfl, rfl⟩ := h
  exact ⟨n, rfl, hn, rfl, hgraph⟩

lemma needText_of_not_blank (name : String) {x : String} (hx : Text.isBlankText x = false)
    (s : Session) : needText name (.str x) s = (.ok x, s) := by
  rw [needText, requireText, hx]
  rfl

lemma needText_of_blank (name : String) {x : String} (hx : Text.isBlankText x = true)
    (s : Session) : needText name (.str x) s = (.error (.request (.blank name)), s) := by
  rw [needText, requireText, hx]
  rfl

end Search

end EntityGraph
