/-!
Faults of the services that the system relies on.

* `FaultKind`: what kind of thing went wrong. The kinds are open: one that the system itself does
  not know has a name. A timeout of the graph is a failure of the graph, which `FaultKind.covers`
  says.
* `Fault`: one fault, with its wording, the document it concerns and the kind of its cause.
-/

namespace EntityGraph

/-- The kinds of faults. -/
inductive FaultKind where
  /-- The graph did not carry out a traversal. -/
  | graph
  /-- The graph did not answer in time. -/
  | graphTimeout
  /-- Recognition failed for a document. -/
  | extraction
  /-- A request was refused. -/
  | request
  /-- The language service refused a call. -/
  | service
  | timeout
  | connection
  | runtime
  /-- A number is out of range. -/
  | overflow
  /-- A value of another type was expected. -/
  | wrongType
  /-- Any other kind. -/
  | other (name : String)
  deriving DecidableEq, Repr, Inhabited

/-- Whether a fault of the second kind counts as one of the first kind. -/
def FaultKind.covers (wide narrow : FaultKind) : Bool :=
  wide = narrow || (wide = .graph && narrow = .graphTimeout)

/-- One fault. -/
structure Fault where
  kind : FaultKind
  message : String
  document : Option String := none
  cause : Option FaultKind := none
  deriving DecidableEq, Repr, Inhabited

end EntityGraph
