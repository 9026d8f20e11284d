import EntityGraph.Proofs.Recording.Composition
import EntityGraph.Proofs.Session.Calls
import EntityGraph.Proofs.Session.Moves
/-!
The document and the run that are at hand while something is done.

* `Log.Context.subject`: the document and the run of a context.
* `Session.Logged`: what was logged between two sessions is about one subject.
* `Action.WorksFor`: an action that works for a subject. Begun with this subject at hand, it leaves
  it at hand, and whatever it logs is about it. `sequential_worksFor` says that such actions can be
  composed.
* `subject_within`, `logged_within`: behind a scope the subject of before is at hand, and what was
  logged within it is about the subject of the scope.
-/

namespace EntityGraph

/-- The document and the run at hand. -/
def Log.Context.subject (c : Log.Context) : Option String × Option String := (c.document, c.run)

lemma Log.Context.eq_of_subject {c c' : Log.Context} (h : c.subject = c'.subject)
    (hoperation : c.operation = c'.operation) : c = c' := by
  obtain ⟨document, run, operation⟩ := c
  obtain ⟨rfl, rfl⟩ := Prod.mk.inj h
  obtain rfl : operation = c'.operation := hoperation
  rfl

/-- Whatever was logged between two sessions is about one subject. -/
def Session.Logged (x : Option String × Option String) (s s' : Session) : Prop :=
  ∃ events, s'.journal = s.journal ++ events ∧ ∀ r, .logged r ∈ events → r.context.subject = x

/-- As long as a subject is at hand, it stays at hand, and whatever is logged is about it. -/
def Session.WorksFor (x : Option String × Option String) (s s' : Session) : Prop :=
  s.context.subject = x → s'.context.subject = x ∧ s.Logged x s'

variable {x : Option String × Option String} {s t u : Session}

namespace Session

lemma Logged.refl (x : Option String × Option String) (s : Session) : s.Logged x s :=
  ⟨[], (List.append_nil _).symm, by simp⟩

lemma Logged.trans (h : s.Logged x t) (h' : t.Logged x u) : s.Logged x u := by
  obtain ⟨events, hevents, hlogged⟩ := h
  obtain ⟨more, hmore, hlogged'⟩ := h'
  refine ⟨events ++ more, by rw [hmore, hevents, List.append_assoc], fun r hr => ?_⟩
  exact (List.mem_append.mp hr).elim (hlogged r) (hlogged' r)

lemma WorksFor.refl (x : Option String × Option String) (s : Session) : s.WorksFor x s :=
  fun h => ⟨h, .refl x s⟩

lemma WorksFor.trans (h : s.WorksFor x t) (h' : t.WorksFor x u) : s.WorksFor x u := fun hs => by
  obtain ⟨ht, hlogged⟩ := h hs
  obtain ⟨hu, hlogged'⟩ := h' ht
  exact ⟨hu, hlogged.trans hlogged'⟩

/-- Log records in the context that is there are about the subject at hand. -/
lemma OnlyLogs.worksFor (h : s.OnlyLogs t) : s.WorksFor x t := by
  rintro rfl
  obtain ⟨records, rfl, hrecords⟩ := h
  refine ⟨rfl, records.map .logged, rfl, fun r hr => ?_⟩
  obtain ⟨r', hr', heq⟩ := List.mem_map.mp hr
  rw [← Event.logged.inj heq, hrecords r' hr']

/-- When nothing is logged and the context stays, work goes on for the same subject. -/
lemma worksFor_of_silence (hcontext : t.context.subject = s.context.subject)
    (hjournal : ∃ events, t.journal = s.journal ++ events ∧ ∀ r, .logged r ∉ events) :
    s.WorksFor x t := by
  rintro rfl
  obtain ⟨events, hevents, hnone⟩ := hjournal
  exact ⟨hcontext, events, hevents, fun r hr => absurd hr (hnone r)⟩

end Session

namespace Action

variable {α β : Type} {a : Action α} {f : α → Action β}

/-- An action that works for a subject. -/
abbrev WorksFor (x : Option String × Option String) (a : Action α) : Prop :=
  a.Moves (Session.WorksFor x)

lemma OnlyLogs.worksFor (h : a.OnlyLogs) : a.WorksFor x := fun s => (h s).worksFor

lemma worksFor_note {e : Event} (h : ∀ r, e ≠ .logged r) : (note e).WorksFor x := fun _ =>
  Session.worksFor_of_silence rfl ⟨[e], rfl, fun r hr => h r (List.mem_singleton.mp hr).symm⟩

lemma WorksFor.bind (ha : a.WorksFor x) (hf : ∀ v, (f v).WorksFor x) : (a >>= f).WorksFor x :=
  Moves.bind Session.WorksFor.trans ha hf

/-- A call of the graph works for whatever subject is at hand. -/
lemma worksFor_execute (t : Traversal) : (execute t).WorksFor x := by
  intro s
  have hunderway : s.WorksFor x (underway t s) :=
    Session.worksFor_of_silence rfl ⟨[.executed t], rfl, by simp⟩
  rcases execute_eq t s with ⟨f, -, h⟩ | h
  · rwa [h]
  · rcases perform_cases t (underway t s) with ⟨e, hrun, -⟩ | ⟨rows, g, hrun, -⟩
    · rwa [h, hrun]
    · rw [h, hrun]
      exact hunderway

lemma WorksFor.during (ha : a.WorksFor x) (operation : String) :
    (Action.during operation a).WorksFor x := fun s =>
  ha (setOperation (some operation) s)

/-- Work for a subject can be composed of actions, one after the other. -/
lemma sequential_worksFor (x : Option String × Option String) :
    Sequential fun {α : Type} (a : Action α) => a.WorksFor x where
  pure v := (onlyLogs_pure v).worksFor
  log level logger message := (onlyLogs_log level logger message).worksFor
  now _ := Session.worksFor_of_silence rfl ⟨[], (List.append_nil _).symm, by simp⟩
  write w time := worksFor_execute (w.traversal time)
  bind := WorksFor.bind
  settle := moves_settle (.refl x) .trans

/-! ### Scopes -/

/-- A scope that is entered with a run leaves the subject of before at hand, whatever is done in
it. -/
lemma subject_within (document run : String) (a : Action α) (s : Session) :
    (within document (some run) a s).2.context.subject = s.context.subject := rfl

/-- Work for the subject of a scope leaves the subject of before at hand, and what was logged is
about the subject of the scope. A scope that is entered without a run has the run of before. -/
lemma logged_within (document : String) (run : Option String)
    (h : a.WorksFor (some document, run.or s.context.run)) :
    (within document run a s).2.context.subject = s.context.subject ∧
    s.Logged (some document, run.or s.context.run) (within document run a s).2 := by
  obtain ⟨hsubject, hlogged⟩ := h { s with context := (s.context.enter (some document) run).1 } rfl
  refine ⟨?_, hlogged⟩
  cases run with
  | some run => rfl
  | none =>
      -- The run behind the scope is the one that the body has left.
      exact congrArg (Prod.mk s.context.document) (Prod.mk.inj hsubject).2

end Action

end EntityGraph
