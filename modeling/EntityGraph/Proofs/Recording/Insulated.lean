import EntityGraph.Proofs.Recording.Composition
import EntityGraph.Proofs.Recording.History
import EntityGraph.Proofs.Recording.Retrying
import EntityGraph.Recording.Batch
/-!
Actions that see nothing of a session but its store.

* `Store`: the graph, the clock and the faults that are going to strike.
* `Action.Alike`: two actions with the same value and the same effect on the store, which depend on
  nothing but the store: neither on the context, nor on the services or on what has been noted.
  `Alike.cases` compares two runs.
* `Action.Insulated`: an action that is like itself.
* `record_insulated`: recording a document is such an action.
* `recordRetrying_alike`: so is trying again to record it, and the random draws do not matter.
-/

namespace EntityGraph

/-- What recordings read and change. -/
structure Store where
  graph : Graph
  clock : Clock
  /-- The faults that the next traversals meet. -/
  faults : List (Option Fault)

/-- The store of a session. -/
def Session.store (s : Session) : Store := ⟨s.graph, s.clock, s.faults⟩

namespace Action

variable {α β : Type} {a b : Action α} {f : α → Action β}

/-- Two actions have the same value and the same effect on the store, and both depend on the store
alone. -/
def Alike (a b : Action α) : Prop :=
  ∀ s t : Session, s.store = t.store → (a s).1 = (b t).1 ∧ (a s).2.store = (b t).2.store

/-- An action whose value and effect on the store depend on the store alone. -/
def Insulated (a : Action α) : Prop := a.Alike a

/-- Two runs on the same store end alike. -/
lemma Alike.cases (h : a.Alike b) {s t : Session} (hst : s.store = t.store) :
    ∃ r s' t', a s = (r, s') ∧ b t = (r, t') ∧ s'.store = t'.store := by
  obtain ⟨hresult, hstore⟩ := h s t hst
  exact ⟨(a s).1, (a s).2, (b t).2, rfl, Prod.ext hresult.symm rfl, hstore⟩

lemma insulated_pure (v : α) : (pure v : Action α).Insulated := fun _ _ h => ⟨rfl, h⟩

lemma insulated_note (e : Event) : (note e).Insulated := fun _ _ h => ⟨rfl, h⟩

lemma insulated_log (level : Log.Level) (logger message : String) :
    (log level logger message).Insulated := fun _ _ h => ⟨rfl, h⟩

lemma insulated_now : now.Insulated := by
  intro s t h
  obtain ⟨hgraph, hclock, hfaults⟩ := Store.mk.inj h
  refine ⟨?_, ?_⟩
  · rw [now, hclock]
    rfl
  · show Store.mk s.graph s.clock.tick s.faults = Store.mk t.graph t.clock.tick t.faults
    rw [hgraph, hclock, hfaults]

lemma Insulated.bind (ha : a.Insulated) (hf : ∀ v, (f v).Insulated) : (a >>= f).Insulated := by
  intro s t hst
  obtain ⟨r, s', t', hs, ht, hstore⟩ := ha.cases hst
  cases r with
  | ok v =>
      rw [bind_of_ok hs, bind_of_ok ht]
      exact hf v s' t' hstore
  | error e =>
      rw [bind_of_error hs, bind_of_error ht]
      exact ⟨rfl, hstore⟩

/-- What the graph makes of a traversal depends on the graph. -/
lemma insulated_perform (t : Traversal) : (perform t).Insulated := by
  intro s s' h
  obtain ⟨hgraph, hclock, hfaults⟩ := Store.mk.inj h
  rw [perform, perform, ← hgraph]
  cases s.graph.execute t.operation with
  | error e => exact ⟨rfl, h⟩
  | ok done =>
      refine ⟨rfl, ?_⟩
      show Store.mk done.1 s.clock s.faults = Store.mk done.1 s'.clock s'.faults
      rw [hclock, hfaults]

lemma insulated_execute (t : Traversal) : (execute t).Insulated := by
  refine (insulated_note _).bind fun _ => ?_
  rintro ⟨graph, clock, context, faults, replies, language, journal⟩
    ⟨graph', clock', context', faults', replies', language', journal'⟩ h
  obtain ⟨rfl, rfl, rfl⟩ := Store.mk.inj h
  rcases faults with _ | ⟨_ | f, rest⟩
  · exact insulated_perform t _ _ rfl
  · exact insulated_perform t _ _ rfl
  · exact ⟨rfl, rfl⟩

/-- What is done before and after an action to other parts of the session does not matter. -/
lemma Alike.scoped (h : a.Alike b) (scope : Action α → Action α) (enter : Session → Session)
    (leave : Session → Session → Session)
    (hscope : ∀ a s, scope a s = ((a (enter s)).1, leave s (a (enter s)).2))
    (henter : ∀ s, (enter s).store = s.store) (hleave : ∀ s t, (leave s t).store = t.store) :
    (scope a).Alike (scope b) := by
  intro s t hst
  obtain ⟨hresult, hstore⟩ := h (enter s) (enter t) (by rw [henter, henter, hst])
  rw [hscope, hscope]
  exact ⟨hresult, by rw [hleave, hleave, hstore]⟩

lemma Alike.within (h : a.Alike b) (document : String) (run : Option String) :
    (Action.within document run a).Alike (Action.within document run b) :=
  h.scoped (Action.within document run)
    (fun s => { s with context := (s.context.enter (some document) run).1 })
    (fun s t => { t with context := (s.context.enter (some document) run).2.leave t.context })
    (fun _ _ => rfl) (fun _ => rfl) (fun _ _ => rfl)

lemma Insulated.during (ha : a.Insulated) (operation : String) :
    (Action.during operation a).Insulated :=
  Alike.scoped ha (Action.during operation) (setOperation (some operation))
    (fun _ t => setOperation none t) (fun _ _ => rfl) (fun _ => rfl) (fun _ _ => rfl)

lemma insulated_settle {as : List (Action Unit)} (h : ∀ a ∈ as, a.Insulated) :
    (settle as).Insulated := by
  induction as with
  | nil => exact insulated_pure ()
  | cons a as ih =>
      have has : (settle as).Insulated := ih fun b hb => h b (List.mem_cons_of_mem a hb)
      intro s t hst
      obtain ⟨r, s', t', hs, ht, hstore⟩ := (h a List.mem_cons_self).cases hst
      cases r with
      | ok v =>
          rw [settle_of_ok hs, settle_of_ok ht]
          exact has s' t' hstore
      | error e =>
          rw [settle_of_error hs, settle_of_error ht]
          exact ⟨rfl, (has s' t' hstore).2⟩

lemma compositional_insulated : Compositional @Insulated where
  pure := insulated_pure
  log := insulated_log
  now := insulated_now
  write w time := insulated_execute (w.traversal time)
  bind := Insulated.bind
  settle := insulated_settle
  within ha := ha.within
  during := Insulated.during

end Action

/-! ### Trying again -/

namespace RetryPolicy

open EntityGraph.Action

variable {α : Type} {attempt : Nat → Action α}

lemma insulated_tried (h : ∀ k, (attempt k).Insulated) (operation : String) (k : Nat) :
    (tried operation attempt k).Insulated :=
  (insulated_note _).bind fun _ => h k

lemma store_pause (p : RetryPolicy) (draws : Nat → Float) (operation : String) (done : Nat)
    (e : Failure) (s : Session) : (p.pause draws operation done e s).store = s.store := by
  obtain ⟨journal, hpause⟩ := p.pause_eq draws operation done e s
  rw [hpause]
  rfl

/-- Trying an action again is as insulated as the action. The draws decide how long the pauses are,
which is no matter of the store. -/
lemma attempts_alike (h : ∀ k, (attempt k).Insulated) (p : RetryPolicy)
    (draws draws' : Nat → Float) (operation : String) (left done : Nat) :
    (p.attempts draws operation attempt left done).Alike
      (p.attempts draws' operation attempt left done) := by
  induction left generalizing done with
  | zero =>
      intro s t hst
      obtain ⟨r, s', t', hs, ht, hstore⟩ := (insulated_tried h operation done).cases hst
      by_cases hr : ∀ e, r = .error e → p.retries e = false
      · rw [attempts_of_settled hs hr, attempts_of_settled ht hr]
        exact ⟨rfl, hstore⟩
      · obtain ⟨e, rfl, he⟩ : ∃ e, r = .error e ∧ p.retries e = true := by simpa using hr
        rw [attempts_zero_of_error hs he, attempts_zero_of_error ht he]
        exact ⟨rfl, hstore⟩
  | succ left ih =>
      intro s t hst
      obtain ⟨r, s', t', hs, ht, hstore⟩ := (insulated_tried h operation done).cases hst
      by_cases hr : ∀ e, r = .error e → p.retries e = false
      · rw [attempts_of_settled hs hr, attempts_of_settled ht hr]
        exact ⟨rfl, hstore⟩
      · obtain ⟨e, rfl, he⟩ : ∃ e, r = .error e ∧ p.retries e = true := by simpa using hr
        cases hdelay : p.backoff.delay (draws done) done with
        | error d =>
            rw [attempts_succ_of_delay_error hs he hdelay,
              attempts_succ_of_delay_error ht he (Backoff.delay_of_error hdelay (draws' done))]
            exact ⟨rfl, hstore⟩
        | ok seconds =>
            obtain ⟨seconds', hdelay'⟩ := Backoff.exists_delay hdelay (draws' done)
            rw [attempts_succ_of_error hs he hdelay, attempts_succ_of_error ht he hdelay']
            refine ih (done + 1) _ _ ?_
            rw [store_pause, store_pause, hstore]

end RetryPolicy

namespace Recording

open EntityGraph.Action

/-- **Recording a document** sees nothing but the store. -/
theorem record_insulated (p : Policy) (d : Document) : (record p d).Insulated :=
  record_of_compositional compositional_insulated p d

/-- Neither does trying again to record it, whatever the draws are. -/
theorem recordRetrying_alike (p : Policy) (retry : RetryPolicy) (draws draws' : Nat → Float)
    (d : Document) :
    (recordRetrying (record p) retry draws d).Alike (recordRetrying (record p) retry draws' d) := by
  have hretrying : (retrying retry draws ("record_document:" ++ d.id) fun _ => record p d).Alike
      (retrying retry draws' ("record_document:" ++ d.id) fun _ => record p d) :=
    RetryPolicy.attempts_alike (fun _ => record_insulated p d) retry draws draws' _ _ _
  intro s t hst
  obtain ⟨r, s', t', hs, ht, hstore⟩ := hretrying.cases hst
  rw [recordRetrying, recordRetrying, hs, ht]
  cases r with
  | ok r => exact ⟨rfl, hstore⟩
  | error e =>
      cases e with
      | exhausted operation attempts last =>
          -- the failure is logged, which is no matter of the store
          exact ((insulated_log _ _ _).bind fun _ => insulated_pure _) s' t' hstore
      | _ => exact ⟨rfl, hstore⟩

/-- Documents recorded one after the other. -/
lemma store_recordEach (p : Policy) (ds : List Document) {s t : Session} (h : s.store = t.store) :
    (recordEach p ds s).store = (recordEach p ds t).store := by
  induction ds generalizing s t with
  | nil => exact h
  | cons d ds ih => exact ih (record_insulated p d s t h).2

end Recording

end EntityGraph
