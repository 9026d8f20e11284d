import EntityGraph.Proofs.Recording.Composition
import EntityGraph.Proofs.Session.Calls
import EntityGraph.Proofs.Session.Moves
/-!
Actions that fail only when a fault strikes, and leave alone what the services are going to answer.

* `Session.Spares`: between two sessions, no service has been asked and no fault has been added.
* `Action.Confined`: actions that spare the services and fail with a waiting fault only.
  `compositional_confined` says that they can be composed.
* `record_confined`: recording a document is such an action.
-/

namespace EntityGraph

/-- No service has been asked between two sessions, and no fault has been added. -/
structure Session.Spares (s s' : Session) : Prop where
  faults : s'.faults ⊆ s.faults
  replies : s'.replies = s.replies
  language : s'.language = s.language

namespace Session.Spares

variable {s s' s'' : Session}

lemma refl (s : Session) : s.Spares s := ⟨List.Subset.refl _, rfl, rfl⟩

lemma trans (h : s.Spares s') (h' : s'.Spares s'') : s.Spares s'' :=
  ⟨List.Subset.trans h'.faults h.faults, h'.replies.trans h.replies, h'.language.trans h.language⟩

end Session.Spares

namespace Action

variable {α β : Type} {a : Action α} {f : α → Action β} {s s' : Session} {e : Failure}

/-- An action that fails only with a fault that was waiting, and asks no service. -/
structure Confined (a : Action α) : Prop where
  spares : ∀ s : Session, s.Spares (a s).2
  fails : ∀ {s : Session} {e : Failure}, (a s).1 = .error e → ∃ f, some f ∈ s.faults ∧ e = .fault f

/-- An action that always succeeds and asks no service. -/
lemma confined_of_ok (h : ∀ s, ∃ v s', a s = (.ok v, s') ∧ s.Spares s') : a.Confined where
  spares s := by
    obtain ⟨v, s', hrun, hspares⟩ := h s
    rwa [hrun]
  fails {s e} he := by
    obtain ⟨v, s', hrun, -⟩ := h s
    rw [hrun] at he
    exact absurd he (by simp)

lemma confined_pure (v : α) : (pure v : Action α).Confined :=
  confined_of_ok fun s => ⟨v, s, rfl, .refl s⟩

lemma confined_log (level : Log.Level) (logger message : String) :
    (log level logger message).Confined :=
  confined_of_ok fun _ => ⟨(), _, rfl, List.Subset.refl _, rfl, rfl⟩

lemma confined_now : now.Confined :=
  confined_of_ok fun _ => ⟨_, _, rfl, List.Subset.refl _, rfl, rfl⟩

lemma spares_underway (t : Traversal) (s : Session) : s.Spares (underway t s) :=
  ⟨(List.tail_sublist _).subset, rfl, rfl⟩

/-- A traversal that no graph refuses. -/
lemma confined_execute {t : Traversal} (h : ∀ g : Graph, ∃ done, g.execute t.operation = .ok done) :
    (execute t).Confined := by
  have hperform : ∀ s, ∃ rows g, perform t s = (.ok rows, { s with graph := g }) := fun s => by
    obtain ⟨done, hdone⟩ := h s.graph
    rcases perform_cases t s with ⟨e, -, herror⟩ | ⟨rows, g, hrun, -⟩
    · exact absurd (hdone.symm.trans herror) (by simp)
    · exact ⟨rows, g, hrun⟩
  refine ⟨fun s => ?_, fun {s e} he => ?_⟩
  · have hspares := spares_underway t s
    rcases execute_eq t s with ⟨f, -, heq⟩ | heq
    · rw [heq]
      exact hspares
    · obtain ⟨rows, g, hg⟩ := hperform (underway t s)
      rw [heq, hg]
      exact ⟨hspares.faults, hspares.replies, hspares.language⟩
  · rcases execute_eq t s with ⟨f, hf, heq⟩ | heq
    · rw [heq] at he
      exact ⟨f, hf, (Except.error.inj he).symm⟩
    · obtain ⟨rows, g, hg⟩ := hperform (underway t s)
      rw [heq, hg] at he
      exact absurd he (by simp)

/-- Two actions, one after the other. -/
lemma Confined.bind (ha : a.Confined) (hf : ∀ v, (f v).Confined) : (a >>= f).Confined where
  spares := Moves.bind .trans ha.spares fun v => (hf v).spares
  fails {s e} he := by
    have hspares := ha.spares s
    cases h : a s with
    | mk result s' =>
        rw [h] at hspares
        cases result with
        | error e' =>
            rw [bind_of_error h] at he
            obtain rfl := Except.error.inj he
            exact ha.fails (congrArg Prod.fst h)
        | ok v =>
            rw [bind_of_ok h] at he
            obtain ⟨f', hf', rfl⟩ := (hf v).fails he
            exact ⟨f', hspares.faults hf', rfl⟩

/-- What is done before and after an action to other parts of the session does not matter. -/
lemma Confined.scoped {b : Action α} (ha : a.Confined) (enter : Session → Session)
    (leave : Session → Session → Session)
    (hb : ∀ s, b s = ((a (enter s)).1, leave s (a (enter s)).2))
    (henter : ∀ s : Session, s.Spares (enter s))
    (hleave : ∀ s t : Session, t.Spares (leave s t)) : b.Confined where
  spares s := by
    rw [hb]
    exact ((henter s).trans (ha.spares _)).trans (hleave s _)
  fails {s e} he := by
    rw [hb] at he
    obtain ⟨f, hf, rfl⟩ := ha.fails he
    exact ⟨f, (henter s).faults hf, rfl⟩

lemma Confined.within (ha : a.Confined) (document : String) (run : Option String) :
    (Action.within document run a).Confined :=
  ha.scoped (fun s => { s with context := (s.context.enter (some document) run).1 })
    (fun s t => { t with context := (s.context.enter (some document) run).2.leave t.context })
    (fun _ => rfl) (fun _ => ⟨List.Subset.refl _, rfl, rfl⟩)
    (fun _ _ => ⟨List.Subset.refl _, rfl, rfl⟩)

lemma Confined.during (ha : a.Confined) (operation : String) :
    (Action.during operation a).Confined :=
  ha.scoped (setOperation (some operation)) (fun _ t => setOperation none t) (fun _ => rfl)
    (fun _ => ⟨List.Subset.refl _, rfl, rfl⟩) (fun _ _ => ⟨List.Subset.refl _, rfl, rfl⟩)

/-- Actions that are all run. -/
lemma confined_settle {as : List (Action Unit)} (h : ∀ a ∈ as, a.Confined) :
    (settle as).Confined := by
  refine ⟨moves_settle .refl .trans fun a ha => (h a ha).spares, fun {s e} he => ?_⟩
  induction as generalizing s with
  | nil => exact absurd he (by simp [settle])
  | cons a as ih =>
      obtain ⟨ha, has⟩ := List.forall_mem_cons.mp h
      have hspares := ha.spares s
      cases hrun : a s with
      | mk result s' =>
          rw [hrun] at hspares
          cases result with
          | error e' =>
              rw [settle_of_error hrun] at he
              obtain rfl := Except.error.inj he
              exact ha.fails (congrArg Prod.fst hrun)
          | ok u =>
              rw [settle_of_ok hrun] at he
              obtain ⟨f, hf, rfl⟩ := ih has he
              exact ⟨f, hspares.faults hf, rfl⟩

lemma compositional_confined : Compositional @Confined where
  pure := confined_pure
  log := confined_log
  now := confined_now
  write w time := confined_execute fun g => by
    obtain ⟨rows, h⟩ := graph_execute_write g w time
    exact ⟨_, h⟩
  bind := Confined.bind
  settle := confined_settle
  within := Confined.within
  during := Confined.during

end Action

namespace Recording

/-- **Recording a document is confined**: it fails only with a fault that strikes one of its writes,
and asks no service. -/
theorem record_confined (p : Policy) (d : Document) : (record p d).Confined :=
  record_of_compositional Action.compositional_confined p d

end Recording

end EntityGraph
