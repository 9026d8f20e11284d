import EntityGraph.Proofs.Graph.Execution
import EntityGraph.Proofs.Recording.Performs
/-!
Traversals that are handed to the graph, one after the other.

* `execute_eq`, `perform_cases`: a fault strikes, or the graph refuses the traversal, or it is
  carried out.
* `executeEach`: the session after some calls, whatever has become of each of them.
* `adds_execute`, `wellFormed_executeEach`, `keeps_executeEach`: what one call can do, and what holds
  after any number of them.
* `exists_creation`: what is there was created by one of the calls.
* `store_append_only`: the store only grows, stays well-formed, and answers with what was written
  first.
-/

namespace EntityGraph.Action

variable {t : Traversal} {ts : List Traversal} {s : Session} {k : Key} {rows : List Row}

/-- A session in which the next call of the graph is under way. -/
def underway (t : Traversal) (s : Session) : Session :=
  { s with faults := s.faults.tail, journal := s.journal ++ [.executed t] }

/-- A call is struck by the next fault, or it is left to the graph. -/
lemma execute_eq (t : Traversal) (s : Session) :
    (∃ f, some f ∈ s.faults ∧ execute t s = (.error (.fault f), underway t s)) ∨
      execute t s = perform t (underway t s) := by
  obtain ⟨graph, clock, context, faults, replies, language, journal⟩ := s
  rcases faults with _ | ⟨_ | f, rest⟩
  · exact .inr rfl
  · exact .inr rfl
  · exact .inl ⟨f, List.mem_cons_self, rfl⟩

/-- What is left to the graph is refused or carried out, and changes nothing but the graph. -/
lemma perform_cases (t : Traversal) (s : Session) :
    (∃ e, perform t s = (.error (.graph e), s) ∧ s.graph.execute t.operation = .error e) ∨
    ∃ rows g, perform t s = (.ok rows, { s with graph := g }) ∧
      s.graph.execute t.operation = .ok (g, rows) := by
  rw [perform]
  cases h : s.graph.execute t.operation with
  | error e => exact .inl ⟨e, rfl, rfl⟩
  | ok done => exact .inr ⟨done.2, done.1, rfl, rfl⟩

/-- A call that fails changes nothing in the graph; otherwise the graph has carried it out. -/
lemma graph_execute_cases (t : Traversal) (s : Session) :
    ((∃ e, (execute t s).1 = .error e) ∧ (execute t s).2.graph = s.graph) ∨
    ∃ rows, (execute t s).1 = .ok rows ∧
      s.graph.execute t.operation = .ok ((execute t s).2.graph, rows) := by
  rcases execute_eq t s with ⟨f, -, h⟩ | h
  · rw [h]
    exact .inl ⟨⟨_, rfl⟩, rfl⟩
  · rw [h]
    rcases perform_cases t (underway t s) with ⟨e, hrun, -⟩ | ⟨rows, g, hrun, hg⟩
    · rw [hrun]
      exact .inl ⟨⟨_, rfl⟩, rfl⟩
    · rw [hrun]
      exact .inr ⟨rows, rfl, hg⟩

/-- A call does nothing or creates what it names. -/
lemma adds_execute (t : Traversal) (s : Session) :
    s.graph.Adds t.operation (execute t s).2.graph := by
  rcases graph_execute_cases t s with ⟨-, hgraph⟩ | ⟨rows, -, hrun⟩
  · rw [hgraph]
    exact .nothing
  · exact (Graph.execute_carries hrun).adds

/-- A write that returns rows returns what has its key afterwards. -/
lemma rowsAt_of_execute_ok (h : (execute t s).1 = .ok rows) (hk : t.operation.Puts k)
    (hsupports : (execute t s).2.graph.Supports k) : rows = (execute t s).2.graph.rowsAt k := by
  rcases graph_execute_cases t s with ⟨⟨e, he⟩, -⟩ | ⟨rows', hrows, hrun⟩
  · rw [he] at h
    exact absurd h (by simp)
  · obtain rfl := Except.ok.inj (hrows.symm.trans h)
    exact (Graph.execute_carries hrun).answers k hk hsupports

/-- A call that changes the graph is a write that succeeds. -/
lemma exists_ok_of_graph_ne (h : (execute t s).2.graph ≠ s.graph) :
    (∃ k, t.operation.Puts k) ∧ ∃ rows, (execute t s).1 = .ok rows := by
  refine ⟨(adds_execute t s).puts_of_ne h, ?_⟩
  rcases graph_execute_cases t s with ⟨-, hgraph⟩ | ⟨rows, hrows, -⟩
  · exact absurd hgraph h
  · exact ⟨rows, hrows⟩

/-- A write that no fault strikes succeeds. -/
lemma exists_ok_of_faultless (w : Write) (time : String) (hs : s.Faultless) :
    ∃ rows, (execute (w.traversal time) s).1 = .ok rows := by
  rcases execute_write_cases w time s with ⟨f, s', -, hf, -⟩ | ⟨rows, s', h, -⟩
  · exact absurd (hs (some f) hf) (by simp)
  · exact ⟨rows, by rw [h]⟩

/-! ### Several calls -/

/-- A session after some traversals have been handed to the graph, one after the other, whatever has
become of each of them. -/
def executeEach (ts : List Traversal) (s : Session) : Session :=
  ts.foldl (fun s t => (execute t s).2) s

lemma executeEach_append (ts more : List Traversal) (s : Session) :
    executeEach (ts ++ more) s = executeEach more (executeEach ts s) := List.foldl_append

/-- **Every number of calls keeps a graph well-formed.** -/
theorem wellFormed_executeEach (hs : s.graph.WellFormed) (ts : List Traversal) :
    (executeEach ts s).graph.WellFormed := by
  induction ts generalizing s with
  | nil => exact hs
  | cons t ts ih => exact ih ((adds_execute t s).wellFormed hs)

/-- **No call takes anything away**, nor does it change or move what is there. -/
theorem keeps_executeEach (ts : List Traversal) (s : Session) :
    s.graph.Keeps (executeEach ts s).graph := by
  induction ts generalizing s with
  | nil => exact .refl s.graph
  | cons t ts ih => exact (adds_execute t s).keeps.trans (ih _)

/-- What is there after some calls, and was not there before them, was created by one of them. -/
lemma exists_creation (h : (executeEach ts s).graph.Has k) (hfree : ¬ s.graph.Has k) :
    ∃ before first after, ts = before ++ first :: after ∧
      ¬ (executeEach before s).graph.Has k ∧
      (execute first (executeEach before s)).2.graph.Has k := by
  induction ts generalizing s with
  | nil => exact absurd h hfree
  | cons t ts ih =>
      by_cases hnow : (execute t s).2.graph.Has k
      · exact ⟨[], t, ts, rfl, hfree, hnow⟩
      · obtain ⟨before, first, after, rfl, hnot, hthen⟩ := ih h hnow
        exact ⟨t :: before, first, after, rfl, hnot, hthen⟩

/-- The call that creates what has a key returns it, and so do all later writes with this key, as
far as they return anything. -/
lemma exists_first_write (hs : s.graph.WellFormed) (hfree : ¬ s.graph.Has k)
    (hk : (executeEach ts s).graph.Has k) (ht : t.operation.Puts k) :
    ∃ before first after row, ts = before ++ first :: after ∧ first.operation.Puts k ∧
      ¬ (executeEach before s).graph.Has k ∧
      (execute first (executeEach before s)).1 = .ok [row] ∧
      ∀ rows, (execute t (executeEach ts s)).1 = .ok rows → rows = [row] := by
  obtain ⟨before, first, after, rfl, hnot, hthen⟩ := exists_creation hk hfree
  have hadds := adds_execute first (executeEach before s)
  have hwell := hadds.wellFormed (wellFormed_executeEach hs before)
  obtain ⟨row, hrow⟩ := Graph.exists_rowsAt_eq hthen
  have hputs : first.operation.Puts k := hadds.puts_of_has hthen hnot
  obtain ⟨-, rows, hrows⟩ := exists_ok_of_graph_ne fun hsame => hnot (hsame ▸ hthen)
  refine ⟨before, first, after, row, rfl, hputs, hnot, ?_, fun rows' hrows' => ?_⟩
  · rw [hrows, rowsAt_of_execute_ok hrows hputs (hwell.supports hthen), hrow]
  · have hkeeps : (execute first (executeEach before s)).2.graph.Keeps
        (execute t (executeEach (before ++ first :: after) s)).2.graph := by
      rw [executeEach_append]
      exact (keeps_executeEach after _).trans (adds_execute t _).keeps
    have hwell' := (adds_execute t _).wellFormed
      (wellFormed_executeEach hs (before ++ first :: after))
    rw [rowsAt_of_execute_ok hrows' ht (hwell'.supports (hkeeps.has hthen)),
      hkeeps.rowsAt_eq hthen, hrow]

/-- **The store only grows and stays well-formed.** After any calls, edges end at vertices and no
id, no pair of ends with a label and no edge identity is there twice. A further call keeps all that
is there in its place, and adds one vertex or edge at most; it adds nothing unless its step is one
of the two writes and it succeeds. A write whose key is taken returns what the call returned that
has created it; it does return when it is a write of this library and no fault strikes. -/
theorem store_append_only {now : Session} (hs : s.graph = .empty) (hnow : executeEach ts s = now) :
    (∀ e ∈ now.graph.edges, e.source ∈ now.graph.vertexIds ∧ e.target ∈ now.graph.vertexIds) ∧
    now.graph.vertexIds.Nodup ∧ now.graph.edgeKeys.Nodup ∧ (now.graph.edges.map Edge.id).Nodup ∧
    ∀ t : Traversal,
      now.graph.Keeps (execute t now).2.graph ∧
      (execute t now).2.graph.elements.length ≤ now.graph.elements.length + 1 ∧
      ((execute t now).2.graph ≠ now.graph →
        (t.operation.step = .str "upsert_vertex" ∨ t.operation.step = .str "upsert_edge") ∧
        ∃ rows, (execute t now).1 = .ok rows) ∧
      ∀ k, t.operation.Puts k → now.graph.Has k →
        ∃ before first after row, ts = before ++ first :: after ∧ first.operation.Puts k ∧
          ¬ (executeEach before s).graph.Has k ∧
          (execute first (executeEach before s)).1 = .ok [row] ∧
          (∀ rows, (execute t now).1 = .ok rows → rows = [row]) ∧
          ((∃ w time, t = Write.traversal time w) → now.Faultless →
            (execute t now).1 = .ok [row]) := by
  subst hnow
  have hstart : s.graph.WellFormed := by
    rw [hs]
    exact .empty
  have hwell := wellFormed_executeEach hstart ts
  refine ⟨hwell.closed, hwell.vertices, hwell.edges, hwell.nodup_edgeIds, fun t => ?_⟩
  refine ⟨(adds_execute t _).keeps, (adds_execute t _).length_elements_le, fun hne => ?_,
    fun k ht hk => ?_⟩
  · obtain ⟨⟨k, hk⟩, hok⟩ := exists_ok_of_graph_ne hne
    exact ⟨hk.step, hok⟩
  · have hfree : ¬ s.graph.Has k := by
      rw [hs]
      cases k <;> exact List.not_mem_nil
    obtain ⟨before, first, after, row, hsplit, hputs, hnot, hfirst, hlater⟩ :=
      exists_first_write hstart hfree hk ht
    refine ⟨before, first, after, row, hsplit, hputs, hnot, hfirst, hlater, ?_⟩
    rintro ⟨w, time, rfl⟩ hfaultless
    obtain ⟨rows, hrows⟩ := exists_ok_of_faultless w time hfaultless
    rw [hrows, hlater rows hrows]

/-- A person is written, then a relationship without its other end, then a step that is none. -/
def threeCalls : List Traversal :=
  [.upsertVertex "ada" "entity" [("text", .str "Ada")], .upsertEdge "knows" "ada" "bob" [],
    { Traversal.empty with operation := .loose (.str "drop") [] }]

/-- Writing the person again, with another label, returns what the first of the calls has made. -/
theorem store_append_only_of_threeCalls :
    ∃ before first after row, threeCalls = before ++ first :: after ∧
      first.operation.Puts (.vertex "ada") ∧
      (execute first (executeEach before {})).1 = .ok [row] ∧
      (execute (.upsertVertex "ada" "document" []) (executeEach threeCalls {})).1 = .ok [row] := by
  have hada : "ada" ∈ (executeEach threeCalls {}).graph.vertexIds := by decide +kernel
  have hfaultless : (executeEach threeCalls {}).Faultless := .of_eq_nil rfl
  have hnow : executeEach threeCalls {} = executeEach threeCalls {} := rfl
  obtain ⟨-, -, -, -, hnext⟩ := store_append_only rfl hnow
  obtain ⟨-, -, -, hagain⟩ := hnext (.upsertVertex "ada" "document" [])
  obtain ⟨before, first, after, row, hsplit, hputs, -, hfirst, -, hrow⟩ :=
    hagain (.vertex "ada") (Operation.puts_traversal (.vertex "ada" "document" fun _ => []) "") hada
  exact ⟨before, first, after, row, hsplit, hputs, hfirst,
    hrow ⟨.vertex "ada" "document" fun _ => [], "", rfl⟩ hfaultless⟩

end EntityGraph.Action
