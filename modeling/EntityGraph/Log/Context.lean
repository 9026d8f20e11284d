/-!
The context in which log records are written.

* `Context`: the document, the run and the operation at hand.
* `Context.enter`, `Scope.leave`: a scope sets the document, and the run when one is given, and
  leaving it restores exactly what it has set. `leave_enter` says that an empty scope changes
  nothing.
-/

namespace EntityGraph.Log

/-- What is being worked on. -/
structure Context where
  document : Option String
  run : Option String
  operation : Option String
  deriving DecidableEq, Repr, Inhabited

/-- What a scope has to restore: the document, and the run if the scope has set one. -/
structure Scope where
  document : Option String
  run : Option (Option String)
  deriving DecidableEq, Repr

namespace Context

/-- The context in which nothing is at hand. -/
def empty : Context := ⟨none, none, none⟩

/-- The parts that are set, by name. -/
def fields (c : Context) : List (String × String) :=
  (c.document.map ("document_id", ·)).toList ++ (c.run.map ("run_id", ·)).toList
    ++ (c.operation.map ("operation", ·)).toList

/-- Work on a document, or on none; a missing run leaves the run as it is. -/
def setDocument (c : Context) (document run : Option String) : Context :=
  { c with document, run := run.or c.run }

/-- Work on an operation, or on none. -/
def setOperation (c : Context) (operation : Option String) : Context :=
  { c with operation := operation }

/-- Enter a scope for a document, or for none: the new context and what leaving has to restore. -/
def enter (c : Context) (document run : Option String) : Context × Scope :=
  (c.setDocument document run, ⟨c.document, run.map fun _ => c.run⟩)

end Context

namespace Scope

/-- Leave a scope. -/
def leave (s : Scope) (c : Context) : Context :=
  { c with document := s.document, run := s.run.getD c.run }

/-- Leaving a scope at once restores the context. -/
@[simp] theorem leave_enter (c : Context) (document run : Option String) :
    (c.enter document run).2.leave (c.enter document run).1 = c := by
  cases run <;> rfl

end Scope

end EntityGraph.Log
