import EntityGraph.Clock
import EntityGraph.Document.Basic
import EntityGraph.Log.Record
import EntityGraph.Session.Failure
/-!
The state that recording and searching act on, and actions on it.

* `Session`: the graph, the clock, the log context, what the services are going to answer, and a
  journal of what has happened.
* `Action`: changes a session and returns a value or a failure. A failure keeps the changes that
  were made before it.
* `log`, `now`, `execute`, `wait`: the basic actions. The graph is changed by `execute` alone.
* `ensuring`, `within`, `during`: actions followed by a clean-up, whether they fail or not.
* `settle`: runs all of several actions, then reports the first failure.
-/

namespace EntityGraph

/-- What happens in a session, as far as others can see it. -/
inductive Event where
  | logged (r : Log.Record)
  | executed (t : Traversal)
  /-- Recognition was asked about some texts. -/
  | recognized (texts : List String)
  /-- An operation that may be tried again was tried. -/
  | attempted (operation : String)
  | waited (seconds : Float)
  deriving Repr

/-- What recognition is going to answer to one call. -/
inductive Reply where
  /-- One result for each text, not yet checked. -/
  | results (items : List Value)
  | refused (f : Fault)
  deriving Repr

/-- The state that recording and searching act on. -/
structure Session where
  graph : Graph := .empty
  clock : Clock := .standard
  context : Log.Context := .empty
  /-- The faults that the next traversals meet, one entry for each; null entries are harmless. -/
  faults : List (Option Fault) := []
  /-- The answers to the next calls of a scripted recognition. -/
  replies : List Reply := []
  /-- The text-analysis service. -/
  language : LanguageService := { parameters := {} }
  /-- What has happened, in order. -/
  journal : List Event := []
  deriving Repr

/-- A session at its start. -/
instance : Inhabited Session := ⟨{}⟩

/-- Changes a session and returns a value or a failure. -/
abbrev Action (α : Type) := ExceptT Failure (StateM Session) α

namespace Action

variable {α : Type}

/-- Change the session. -/
def change (f : Session → Session) : Action Unit := fun s => (.ok (), f s)

/-- Fail. -/
def fail (e : Failure) : Action α := fun s => (.error e, s)

/-- The value of a result that is already there. -/
def ofExcept : Except Failure α → Action α
  | .ok a => fun s => (.ok a, s)
  | .error e => fail e

/-- Note an event. -/
def note (e : Event) : Action Unit := change fun s => { s with journal := s.journal ++ [e] }

/-- Write a log record in the current context. -/
def log (level : Log.Level) (logger message : String) : Action Unit := fun s =>
  (.ok (), { s with journal := s.journal ++
    [.logged { level, logger, message, context := s.context }] })

/-- Read the clock. -/
def now : Action String := fun s => (.ok s.clock.text, { s with clock := s.clock.tick })

/-- Wait. -/
def wait (seconds : Float) : Action Unit := note (.waited seconds)

/-- What the graph makes of a traversal when no fault comes in between. -/
def perform (t : Traversal) : Action (List Row) := fun s =>
  match s.graph.execute t.operation with
  | .ok (g, rows) => (.ok rows, { s with graph := g })
  | .error e => (.error (.graph e), s)

/-- Hand a traversal to the graph. It is carried out unless the next fault strikes. -/
def execute (t : Traversal) : Action (List Row) := do
  note (.executed t)
  fun s =>
    match s.faults with
    | some f :: rest => (.error (.fault f), { s with faults := rest })
    | none :: rest => perform t { s with faults := rest }
    | [] => perform t s

/-! ### Scopes -/

/-- An action followed by a change of the session, whether it fails or not. -/
def ensuring (cleanup : Session → Session) (body : Action α) : Action α := fun s =>
  let (result, after) := body s
  (result, cleanup after)

/-- An action in the scope of a document and, when given, a run. -/
def within (document : String) (run : Option String) (body : Action α) : Action α := fun s =>
  let (context, scope) := s.context.enter (some document) run
  ensuring (fun t => { t with context := scope.leave t.context }) body { s with context }

/-- Set the operation at hand. -/
def setOperation (operation : Option String) (s : Session) : Session :=
  { s with context := s.context.setOperation operation }

/-- An action as an operation; afterwards no operation is at hand. -/
def during (operation : String) (body : Action α) : Action α := fun s =>
  ensuring (setOperation none) body (setOperation (some operation) s)

/-! ### Several actions -/

/-- Run all actions, one after the other, and then report the first failure. -/
def settle : List (Action Unit) → Action Unit
  | [] => fun s => (.ok (), s)
  | a :: rest => fun s =>
    match a s with
    | (.ok (), s) => settle rest s
    | (.error e, s) => (.error e, (settle rest s).2)

end Action

end EntityGraph
