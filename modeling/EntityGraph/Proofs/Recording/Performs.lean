import EntityGraph.Proofs.Graph.Write
import EntityGraph.Session.Basic
/-!
Actions and the writes they perform.

* `Clock.stamp`: writes with the readings of the clock, one for each.
* `Session.Faultless`: no fault is going to strike.
* `Action.Performs`: an action that returns a given value after given writes. If it succeeds, it has
  made them all; it does succeed when no fault strikes; and in any case it has made some of them, in
  their order, and nothing else.
* `Performs.bind`, `performs_settle`, `Performs.within`, `Performs.during`: the writes of composed
  actions.
-/

namespace EntityGraph

namespace Clock

/-- The clock after some readings. -/
def after : Nat → Clock → Clock
  | 0, c => c
  | n + 1, c => after n c.tick

lemma after_add (m n : Nat) (c : Clock) : c.after (m + n) = (c.after m).after n := by
  induction m generalizing c with
  | zero => rw [Nat.zero_add, after]
  | succ m ih => rw [Nat.succ_add, after, after, ih]

/-- Writes with the readings of the clock at which they are made. -/
def stamp : Clock → List Write → List (Write × String)
  | _, [] => []
  | c, w :: ws => (w, c.text) :: c.tick.stamp ws

lemma stamp_append (c : Clock) (ws more : List Write) :
    c.stamp (ws ++ more) = c.stamp ws ++ (c.after ws.length).stamp more := by
  induction ws generalizing c with
  | nil => rfl
  | cons w ws ih =>
      rw [List.cons_append, stamp, stamp, ih, List.length_cons, after, List.cons_append]

@[simp] lemma map_fst_stamp (c : Clock) (ws : List Write) : (c.stamp ws).map Prod.fst = ws := by
  induction ws generalizing c with
  | nil => rfl
  | cons w ws ih => rw [stamp, List.map_cons, ih]

end Clock

/-- No fault is going to strike. -/
def Session.Faultless (s : Session) : Prop := ∀ f ∈ s.faults, f = none

lemma Session.Faultless.of_eq_nil {s : Session} (h : s.faults = []) : s.Faultless := by
  rw [Faultless, h]
  exact fun f hf => absurd hf List.not_mem_nil

namespace Action

variable {α β : Type} {a : Action α} {f : α → Action β} {s s' : Session} {v : α} {e : Failure}

/-- An action goes on with the value of the one before it. -/
lemma bind_of_ok (h : a s = (.ok v, s')) : (a >>= f) s = f v s' := by
  show ExceptT.bindCont f (a s).1 (a s).2 = f v s'
  rw [h]
  rfl

/-- Nothing is done after a failure. -/
lemma bind_of_error (h : a s = (.error e, s')) : (a >>= f) s = (.error e, s') := by
  show ExceptT.bindCont f (a s).1 (a s).2 = (.error e, s')
  rw [h]
  rfl

/-- What succeeds has gone on with a value. -/
lemma exists_of_bind_ok {u : β} (h : (a >>= f) s = (.ok u, s')) :
    ∃ v s₁, a s = (.ok v, s₁) ∧ f v s₁ = (.ok u, s') := by
  rcases hrun : a s with ⟨e | v, s₁⟩
  · rw [bind_of_error hrun] at h
    exact absurd (congrArg Prod.fst h) (by simp)
  · exact ⟨v, s₁, rfl, by rwa [bind_of_ok hrun] at h⟩

/-- An action that returns `v` after the writes `ws`. -/
structure Performs (a : Action α) (ws : List Write) (v : α) : Prop where
  /-- A run that succeeds has made all the writes, with one reading of the clock for each. -/
  of_ok : ∀ {s s' : Session} {r : α}, a s = (.ok r, s') →
    r = v ∧ s'.graph = s.graph.writeAll (s.clock.stamp ws) ∧ s'.clock = s.clock.after ws.length
      ∧ (s.Faultless → s'.Faultless)
  /-- A run that no fault strikes succeeds. -/
  succeeds : ∀ {s : Session}, s.Faultless → ∃ s', a s = (.ok v, s')
  /-- Any run has made some of the writes, in their order, and nothing else. -/
  made : ∀ s : Session, ∃ ops : List (Write × String),
    (ops.map Prod.fst).Sublist ws ∧ (a s).2.graph = s.graph.writeAll ops

/-- An action that changes neither the graph nor the clock nor the faults. -/
lemma performs_of_frame (h : ∀ s, ∃ s', a s = (.ok v, s') ∧ s'.graph = s.graph ∧
    s'.clock = s.clock ∧ s'.faults = s.faults) : a.Performs [] v where
  of_ok {s s' r} hrun := by
    obtain ⟨s'', hs, hgraph, hclock, hfaults⟩ := h s
    rw [hs, Prod.mk.injEq, Except.ok.injEq] at hrun
    obtain ⟨rfl, rfl⟩ := hrun
    refine ⟨rfl, hgraph, hclock, fun hf => ?_⟩
    rwa [Session.Faultless, hfaults]
  succeeds {s} _ := by
    obtain ⟨s', hs, -⟩ := h s
    exact ⟨s', hs⟩
  made s := by
    obtain ⟨s', hs, hgraph, -⟩ := h s
    exact ⟨[], .slnil, by rw [hs, hgraph]; rfl⟩

lemma performs_pure (v : α) : (pure v : Action α).Performs [] v :=
  performs_of_frame fun s => ⟨s, rfl, rfl, rfl, rfl⟩

lemma performs_log (level : Log.Level) (logger message : String) :
    (log level logger message).Performs [] () :=
  performs_of_frame fun _ => ⟨_, rfl, rfl, rfl, rfl⟩

/-- Two actions, one after the other. -/
lemma Performs.bind {ws more : List Write} {u : β} (ha : a.Performs ws v)
    (hf : (f v).Performs more u) : (a >>= f).Performs (ws ++ more) u where
  of_ok {s s' r} hrun := by
    obtain ⟨r₁, s₁, h, hrun⟩ := exists_of_bind_ok hrun
    obtain ⟨rfl, hgraph, hclock, hfaults⟩ := ha.of_ok h
    obtain ⟨rfl, hgraph', hclock', hfaults'⟩ := hf.of_ok hrun
    refine ⟨rfl, ?_, ?_, fun hs => hfaults' (hfaults hs)⟩
    · rw [hgraph', hgraph, hclock, Clock.stamp_append, Graph.writeAll_append]
    · rw [hclock', hclock, List.length_append, Clock.after_add]
  succeeds {s} hs := by
    obtain ⟨s₁, h⟩ := ha.succeeds hs
    obtain ⟨-, -, -, hfaults⟩ := ha.of_ok h
    obtain ⟨s₂, h'⟩ := hf.succeeds (hfaults hs)
    exact ⟨s₂, by rw [bind_of_ok h, h']⟩
  made s := by
    cases h : a s with
    | mk result s₁ =>
        cases result with
        | error e =>
            obtain ⟨ops, hsub, hgraph⟩ := ha.made s
            rw [h] at hgraph
            exact ⟨ops, hsub.trans (List.sublist_append_left ws more),
              by rw [bind_of_error h]; exact hgraph⟩
        | ok r₁ =>
            obtain ⟨rfl, hgraph, -, -⟩ := ha.of_ok h
            obtain ⟨ops, hsub, hgraph'⟩ := hf.made s₁
            refine ⟨s.clock.stamp ws ++ ops, ?_, ?_⟩
            · rw [List.map_append, Clock.map_fst_stamp]
              exact hsub.append_left ws
            · rw [bind_of_ok h, hgraph', hgraph, Graph.writeAll_append]

lemma Performs.discard {ws : List Write} (ha : a.Performs ws v) :
    (discard a : Action Unit).Performs ws () := by
  have h := ha.bind (f := fun _ => (pure () : Action Unit)) (performs_pure ())
  rwa [List.append_nil] at h

/-! ### A single write -/

/-- The graph carries out every write. -/
lemma graph_execute_write (g : Graph) (w : Write) (time : String) :
    ∃ rows, g.execute (w.traversal time).operation = .ok (g.write w time, rows) := by
  cases w <;> exact ⟨_, rfl⟩

/-- A write that no fault strikes is carried out. -/
lemma perform_write (w : Write) (time : String) (s : Session) :
    ∃ rows s', perform (w.traversal time) s = (.ok rows, s') ∧
      s'.graph = s.graph.write w time ∧ s'.clock = s.clock ∧ s'.faults = s.faults := by
  obtain ⟨rows, h⟩ := graph_execute_write s.graph w time
  exact ⟨rows, { s with graph := s.graph.write w time }, by rw [perform, h], rfl, rfl, rfl⟩

/-- A write is struck by the next fault, or it is carried out. -/
lemma execute_write_cases (w : Write) (time : String) (s : Session) :
    (∃ f s', execute (w.traversal time) s = (.error (.fault f), s') ∧ some f ∈ s.faults ∧
      s'.graph = s.graph) ∨
    ∃ rows s', execute (w.traversal time) s = (.ok rows, s') ∧ s'.graph = s.graph.write w time ∧
      s'.clock = s.clock ∧ s'.faults ⊆ s.faults := by
  obtain ⟨graph, clock, context, faults, replies, language, journal⟩ := s
  have hperform := fun (fs : List (Option Fault)) => perform_write w time
    ⟨graph, clock, context, fs, replies, language, journal ++ [.executed (w.traversal time)]⟩
  rcases faults with _ | ⟨_ | f, rest⟩
  · obtain ⟨rows, s', h, hgraph, hclock, hfaults⟩ := hperform []
    exact .inr ⟨rows, s', h, hgraph, hclock, by rw [hfaults]; exact List.nil_subset _⟩
  · obtain ⟨rows, s', h, hgraph, hclock, hfaults⟩ := hperform rest
    exact .inr ⟨rows, s', h, hgraph, hclock, by rw [hfaults]; exact List.subset_cons_self _ _⟩
  · exact .inl ⟨f, _, rfl, List.mem_cons_self, rfl⟩

/-- Make a write at the time that the clock shows. -/
def writeNow (w : Write) : Action Unit := do
  let time ← now
  discard <| execute (w.traversal time)

/-- A write is struck by the next fault, or it is made. -/
lemma writeNow_cases (w : Write) (s : Session) :
    (∃ f s', writeNow w s = (.error (.fault f), s') ∧ some f ∈ s.faults ∧ s'.graph = s.graph) ∨
    ∃ s', writeNow w s = (.ok (), s') ∧ s'.graph = s.graph.write w s.clock.text ∧
      s'.clock = s.clock.tick ∧ s'.faults ⊆ s.faults := by
  have hnow : now s = (.ok s.clock.text, { s with clock := s.clock.tick }) := rfl
  rw [writeNow, bind_of_ok hnow]
  rcases execute_write_cases w s.clock.text { s with clock := s.clock.tick } with
    ⟨f, s', h, hf, hgraph⟩ | ⟨rows, s', h, hgraph, hclock, hfaults⟩
  · refine .inl ⟨f, s', ?_, hf, hgraph⟩
    exact bind_of_error (f := fun _ => (pure () : Action Unit)) h
  · refine .inr ⟨s', ?_, hgraph, hclock, hfaults⟩
    exact bind_of_ok (f := fun _ => (pure () : Action Unit)) h

lemma performs_writeNow (w : Write) : (writeNow w).Performs [w] () where
  of_ok {s s' r} hrun := by
    rcases writeNow_cases w s with ⟨f, s'', h, -⟩ | ⟨s'', h, hgraph, hclock, hfaults⟩
    · rw [h] at hrun
      exact absurd (congrArg Prod.fst hrun) (by simp)
    · rw [h] at hrun
      obtain rfl := congrArg Prod.snd hrun
      exact ⟨rfl, hgraph, hclock, fun hs f hf => hs f (hfaults hf)⟩
  succeeds {s} hs := by
    rcases writeNow_cases w s with ⟨f, s', h, hf, -⟩ | ⟨s', h, -⟩
    · exact absurd (hs (some f) hf) (by simp)
    · exact ⟨s', h⟩
  made s := by
    rcases writeNow_cases w s with ⟨f, s', h, hf, hgraph⟩ | ⟨s', h, hgraph, -⟩
    · exact ⟨[], List.nil_sublist _, by rw [h, hgraph]; rfl⟩
    · exact ⟨[(w, s.clock.text)], .refl _, by rw [h, hgraph]; rfl⟩

/-! ### Several actions, and scopes -/

lemma settle_of_ok {b : Action Unit} {rest : List (Action Unit)} (h : b s = (.ok (), s')) :
    settle (b :: rest) s = settle rest s' := by
  simp only [settle, h]

lemma settle_of_error {b : Action Unit} {rest : List (Action Unit)} (h : b s = (.error e, s')) :
    settle (b :: rest) s = (.error e, (settle rest s').2) := by
  simp only [settle, h]

/-- One more action to be run, whatever becomes of it. -/
lemma Performs.settle_cons {b : Action Unit} {rest : List (Action Unit)} {ws more : List Write}
    (hb : b.Performs ws ()) (hrest : (settle rest).Performs more ()) :
    (settle (b :: rest)).Performs (ws ++ more) () where
  of_ok {s s' r} hrun := by
    cases h : b s with
    | mk result s₁ =>
        cases result with
        | error e =>
            rw [settle_of_error h] at hrun
            exact absurd (congrArg Prod.fst hrun) (by simp)
        | ok r₁ =>
            rw [settle_of_ok h, ← bind_of_ok (f := fun _ => settle rest) h] at hrun
            exact (hb.bind (f := fun _ => settle rest) hrest).of_ok hrun
  succeeds {s} hs := by
    obtain ⟨s₁, h⟩ := hb.succeeds hs
    obtain ⟨-, -, -, hfaults⟩ := hb.of_ok h
    obtain ⟨s₂, h'⟩ := hrest.succeeds (hfaults hs)
    exact ⟨s₂, by rw [settle_of_ok h, h']⟩
  made s := by
    obtain ⟨ops, hsub, hgraph⟩ := hb.made s
    cases h : b s with
    | mk result s₁ =>
        obtain ⟨ops', hsub', hgraph'⟩ := hrest.made s₁
        rw [h] at hgraph
        refine ⟨ops ++ ops', by rw [List.map_append]; exact hsub.append hsub', ?_⟩
        rw [Graph.writeAll_append, ← hgraph, ← hgraph']
        cases result with
        | error e => rw [settle_of_error h]
        | ok r₁ => rw [settle_of_ok h]

/-- Actions that are all run perform all their writes. -/
lemma performs_settle {ι : Type} {xs : List ι} {f : ι → Action Unit} {ws : ι → List Write}
    (h : ∀ x ∈ xs, (f x).Performs (ws x) ()) :
    (settle (xs.map f)).Performs (xs.flatMap ws) () := by
  induction xs with
  | nil => exact performs_of_frame fun s => ⟨s, rfl, rfl, rfl, rfl⟩
  | cons x xs ih =>
      exact (h x List.mem_cons_self).settle_cons (ih fun y hy => h y (List.mem_cons_of_mem x hy))

/-- What is done before and after an action to other parts of the session does not matter. -/
lemma Performs.scoped {b : Action α} {ws : List Write} (ha : a.Performs ws v)
    (enter : Session → Session) (leave : Session → Session → Session)
    (hb : ∀ s, b s = ((a (enter s)).1, leave s (a (enter s)).2))
    (henter : ∀ s, (enter s).graph = s.graph ∧ (enter s).clock = s.clock ∧
      (enter s).faults = s.faults)
    (hleave : ∀ s t, (leave s t).graph = t.graph ∧ (leave s t).clock = t.clock ∧
      (leave s t).faults = t.faults) : b.Performs ws v where
  of_ok {s s' r} hrun := by
    cases h : a (enter s) with
    | mk result s₁ =>
        rw [hb, h, Prod.mk.injEq] at hrun
        obtain ⟨rfl, rfl⟩ := hrun
        obtain ⟨rfl, hgraph, hclock, hfaults⟩ := ha.of_ok h
        obtain ⟨hg, hc, hf⟩ := henter s
        obtain ⟨hg', hc', hf'⟩ := hleave s s₁
        refine ⟨rfl, ?_, ?_, fun hs => ?_⟩
        · rw [hg', hgraph, hg, hc]
        · rw [hc', hclock, hc]
        · rw [Session.Faultless, hf']
          exact hfaults (by rwa [Session.Faultless, hf])
  succeeds {s} hs := by
    obtain ⟨s₁, h⟩ := ha.succeeds (s := enter s) (by rwa [Session.Faultless, (henter s).2.2])
    exact ⟨leave s s₁, by rw [hb, h]⟩
  made s := by
    obtain ⟨ops, hsub, hgraph⟩ := ha.made (enter s)
    exact ⟨ops, hsub, by rw [hb, (hleave s _).1, hgraph, (henter s).1]⟩

lemma Performs.within {ws : List Write} (ha : a.Performs ws v) (document : String)
    (run : Option String) : (Action.within document run a).Performs ws v :=
  ha.scoped (fun s => { s with context := (s.context.enter (some document) run).1 })
    (fun s t => { t with context := (s.context.enter (some document) run).2.leave t.context })
    (fun _ => rfl) (fun _ => ⟨rfl, rfl, rfl⟩) (fun _ _ => ⟨rfl, rfl, rfl⟩)

lemma Performs.during {ws : List Write} (ha : a.Performs ws v) (operation : String) :
    (Action.during operation a).Performs ws v :=
  ha.scoped (setOperation (some operation)) (fun _ t => setOperation none t)
    (fun _ => rfl) (fun _ => ⟨rfl, rfl, rfl⟩) (fun _ _ => ⟨rfl, rfl, rfl⟩)

end Action

end EntityGraph
