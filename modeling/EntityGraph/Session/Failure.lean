import EntityGraph.Checked.Basic
import EntityGraph.Decimal.Shortest
import EntityGraph.Delay
import EntityGraph.Fault
import EntityGraph.Graph.Execute
import EntityGraph.Language.Client
import EntityGraph.Query.Parse
import EntityGraph.Remote.Client
import EntityGraph.Request
import EntityGraph.Value.Text
/-!
Why an action fails.

* `Failure`: a fault from outside, an operation that the graph does not carry out, a refused
  request, invalid input, attempts that are used up, a delay that cannot be computed, a value of an
  unexpected type, or a library that is not installed.
* `Failure.kind?`: the kind of fault that a failure counts as, if any. `Failure.isOf` says whether
  this is one of some kinds.
* `LanguageError.toFailure`, `RemoteError.toFailure`: the errors of services as failures. What the
  language service does wrong is a failed extraction, and what a remote graph does wrong with a
  traversal is a fault of the graph. Interruptions and faults of connections are passed on as they
  are.
-/

namespace EntityGraph

/-- What an operation that the graph does not carry out says, as far as it says anything. -/
def GraphError.message : GraphError → String
  | .unknownStep step => "In-memory store cannot evaluate step " ++ step.display
  | .foreign node => "Unknown query node: " ++ node.value.display
  | .mismatch => ""
  | .nullVertex => "None cannot be a node"
  | .properties e => e.message

/-- Why an action fails. -/
inductive Failure where
  | fault (f : Fault)
  | graph (e : GraphError)
  | request (e : RequestError)
  | invalid (issues : List Issue)
  | exhausted (operation : String) (attempts : Nat) (last : Failure)
  | delay (e : DelayError)
  /-- A value of another type was expected. -/
  | wrongType
  /-- A text was expected. -/
  | notText (e : NotText)
  /-- A library is not installed. -/
  | libraryMissing (advice : String)
  deriving Repr

namespace Failure

/-- A failure that says nothing. -/
instance : Inhabited Failure := ⟨.wrongType⟩

/-- What a failure says. -/
def message : Failure → String
  | fault f => f.message
  | graph e => e.message
  | request e => e.message
  | invalid _ => ""
  | exhausted operation attempts last =>
    "Operation '" ++ operation ++ "' failed after " ++ toString attempts ++ " attempts: "
      ++ last.message
  | delay e => e.message
  | wrongType => ""
  | notText e => e.message
  | libraryMissing advice => advice

/-- The kind of fault that a failure counts as. -/
def kind? : Failure → Option FaultKind
  | fault f => some f.kind
  | graph (.unknownStep _) => some .graph
  | request _ => some .request
  | _ => none

/-- Whether a failure counts as a fault of one of some kinds. -/
def isOf (kinds : List FaultKind) (e : Failure) : Bool :=
  e.kind?.any fun kind => kinds.any (·.covers kind)

end Failure

/-- An error of the language service as a failure. -/
def LanguageError.toFailure (e : LanguageError) : Failure :=
  match e with
  | .libraryMissing => .libraryMissing e.message
  | .recognition cause | .summary _ cause =>
    .fault { kind := .extraction, message := e.message, cause := some cause.kind }
  | .nothingSummarized _ => .fault { kind := .extraction, message := e.message }
  | .notText e => .notText e
  | .fault f => .fault f
  | .invalid issues => .invalid issues

/-- An error of a remote graph as a failure. -/
def RemoteError.toFailure (e : RemoteError) : Failure :=
  match e with
  | .notOpen => .fault { kind := .graph, message := e.message }
  | .timedOut _ _ =>
    .fault { kind := .graphTimeout, message := e.message, cause := some .timeout }
  | .failed _ cause =>
    .fault { kind := .graph, message := e.message, cause := some cause.kind }
  | .libraryMissing => .libraryMissing e.message
  | .bindings cause => .graph (.properties cause)
  | .interrupted name message => .fault { kind := .other name, message }
  | .driver f => .fault f

end EntityGraph
