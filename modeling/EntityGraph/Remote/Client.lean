import EntityGraph.Fault
import EntityGraph.Settings.Selection
import EntityGraph.Traversal.Basic
import EntityGraph.Value.Entries
import EntityGraph.Value.Text
/-!
A graph engine behind a connection.

* `RemoteGraph`: the parameters, the connection that is open, if any, what the engine answers on a
  connection, what goes wrong when a connection is made or closed, and the history of the
  connections.
* `RemoteGraph.connect`, `RemoteGraph.disconnect`: both do nothing when there is nothing to do, so
  that at most one connection is open and each is closed at most once. `RemoteGraph.close` also
  says what went wrong; the connection is given up all the same.
* `RemoteGraph.enter`, `RemoteGraph.leave`: the connection as the scope of other work.
* `RemoteGraph.execute`: submits the script of a traversal with its bindings. The empty traversal is
  answered without asking. `RemoteGraph.executeWith` takes the bindings from elsewhere.
* `Patience`: how long an answer is waited for, as the limit among the parameters says.
  `RemoteAnswer.reached` and `RemoteAnswer.inTime` say what this means for a script and its answer.
* `RemoteEvent.submission?`: what the engine is given.
* `RemoteError`: why there is no connection or no answer.
-/

namespace EntityGraph

/-- What comes of one script. -/
inductive RemoteAnswer where
  | rows (rows : List Value)
  | raised (f : Fault)
  /-- Nothing is wrong with the script, but the work is called off, or the whole program is to
  end. -/
  | interrupted (name message : String)
  /-- The answer comes after the time that a limit leaves. By the end of that time, the script may
  not even have been handed over. -/
  | late (handedOver : Bool) (answer : RemoteAnswer)
  deriving Repr

/-- The answer that comes in the end. -/
def RemoteAnswer.eventual : RemoteAnswer → RemoteAnswer
  | late _ a => a.eventual
  | a => a

/-! ### Limits -/

/-- How long an answer is waited for. -/
inductive Patience where
  /-- As long as it takes. -/
  | unlimited
  /-- For some time. -/
  | limited
  /-- Not at all. -/
  | exhausted
  deriving DecidableEq, Repr

/-- Why a value does not limit anything. -/
inductive LimitError where
  /-- The number is beyond the range of binary64 numbers. -/
  | tooLarge
  | noNumber (given : Value)
  deriving Repr

/-- The fault that this is. -/
def LimitError.fault : LimitError → Fault
  | tooLarge => { kind := .overflow, message := "int too large to convert to float" }
  | noNumber given =>
    { kind := .wrongType
      message := "'<=' not supported between instances of '" ++ given.kindName ++ "' and 'int'" }

/-- How long a limit in seconds lets an answer be waited for. A number that is not above zero leaves
no time. -/
def Patience.ofLimit : Value → Except LimitError Patience
  | .null => .ok .unlimited
  | .bool b => .ok (if b then .limited else .exhausted)
  | .int n =>
    if n ≤ 0 then .ok .exhausted
    else if (Float.ofInt n).isInf then .error .tooLarge
    else .ok .limited
  | .float x => .ok (if x ≤ 0.0 then .exhausted else .limited)
  | given => .error (.noNumber given)

namespace RemoteAnswer

/-- Whether the script is handed over before the time is over. -/
def reached (p : Patience) : RemoteAnswer → Bool
  | late handedOver _ => p = .unlimited || p = .limited && handedOver
  | _ => p ≠ .exhausted

/-- Whether the answer comes before the time is over. -/
def inTime (p : Patience) : RemoteAnswer → Bool
  | late .. => p = .unlimited
  | _ => p ≠ .exhausted

end RemoteAnswer

/-! ### Events and errors -/

/-- What has happened to connections, which are numbered from 0. -/
inductive RemoteEvent where
  | opened (connection : Nat) (parameters : RemoteParameters)
  | submitted (connection : Nat) (script : String) (bindings : Fields)
  | closed (connection : Nat)
  deriving Repr

/-- The script that an event hands to the engine, with the connection that carries it and with the
bindings, if there are any. -/
def RemoteEvent.submission? : RemoteEvent → Option (Nat × String × Option Fields)
  | submitted n script bindings =>
    some (n, script, if bindings.isEmpty then none else some bindings)
  | opened .. | closed _ => none

/-- Why there is no connection, or a traversal has no answer. -/
inductive RemoteError where
  | notOpen
  | timedOut (subject : String) (limit : Value)
  | failed (subject : String) (cause : Fault)
  /-- The work has been called off, or the whole program is to end. -/
  | interrupted (name message : String)
  /-- The library that speaks to the engine is not installed. -/
  | libraryMissing
  /-- The bindings describe no object. -/
  | bindings (e : EntriesError)
  /-- The connection could not be made, or not be closed in good order. -/
  | driver (f : Fault)
  deriving Repr

/-- What an error says. -/
def RemoteError.message : RemoteError → String
  | notOpen => "Gremlin store is not open"
  | timedOut subject limit =>
    "Traversal '" ++ subject ++ "' timed out after " ++ limit.plain ++ "s"
  | failed subject cause => "Traversal '" ++ subject ++ "' failed: " ++ cause.message
  | libraryMissing => "gremlinpython package required: pip install gremlinpython"
  | bindings e => e.message
  | interrupted _ message => message
  | driver f => f.message

/-- A graph engine behind a connection. -/
structure RemoteGraph where
  parameters : RemoteParameters
  /-- The number of the open connection. -/
  connection : Option Nat := none
  /-- How many connections have been made. -/
  made : Nat := 0
  /-- What the engine answers to the scripts of a connection, from its first one on. -/
  behaviour : List RemoteAnswer := []
  /-- The answers to the next scripts of the open connection. -/
  answers : List RemoteAnswer := []
  libraryMissing : Bool := false
  /-- What the attempt to make a connection meets. -/
  refusal : Option Fault := none
  /-- What the attempt to close a connection meets. -/
  closingFault : Option Fault := none
  history : List RemoteEvent := []
  deriving Repr

namespace RemoteGraph

/-- Add to the history. -/
def record (g : RemoteGraph) (e : RemoteEvent) : RemoteGraph :=
  { g with history := g.history ++ [e] }

/-- Open a connection unless one is open. -/
def connect (g : RemoteGraph) : Except RemoteError RemoteGraph :=
  match g.connection with
  | some _ => .ok g
  | none =>
    if g.libraryMissing then .error .libraryMissing
    else
      match g.refusal with
      | some f => .error (.driver f)
      | none =>
        .ok (({ g with
          connection := some g.made, made := g.made + 1, answers := g.behaviour }).record
          (.opened g.made g.parameters))

/-- Close the connection, if one is open. -/
def disconnect (g : RemoteGraph) : RemoteGraph :=
  match g.connection with
  | some n => ({ g with connection := none }).record (.closed n)
  | none => g

/-- Close the connection, if one is open, and say what went wrong. -/
def close (g : RemoteGraph) : Except RemoteError Unit × RemoteGraph :=
  match g.connection, g.closingFault with
  | some _, some f => (.error (.driver f), g.disconnect)
  | _, _ => (.ok (), g.disconnect)

/-- Begin work on a graph: it is opened. -/
def enter (g : RemoteGraph) : Except RemoteError RemoteGraph := g.connect

/-- End work on a graph, whether the work failed or not: it is closed. -/
def leave (g : RemoteGraph) : Except RemoteError Unit × RemoteGraph := g.close

/-- The name under which a traversal is reported: its step, or that it is a script. -/
def subject (t : Traversal) : String :=
  let step := t.operation.step
  if step.isEmptyLike then "script" else step.plain

/-- What is reported about a traversal when the time is over. -/
def expired (g : RemoteGraph) (t : Traversal) : RemoteError :=
  .timedOut (subject t) g.parameters.timeout

/-- What an answer means for a traversal. An engine that itself runs out of time is no different
from one that is not waited for. -/
def interpret (g : RemoteGraph) (t : Traversal) : RemoteAnswer → Except RemoteError (List Value)
  | .rows rows => .ok rows
  | .raised f => .error (if f.kind = .timeout then g.expired t else .failed (subject t) f)
  | .interrupted name message => .error (.interrupted name message)
  | .late _ a => g.interpret t a

/-- Submit a script on a connection and wait for its answer. An engine without further answers
returns no rows. -/
def submit (g : RemoteGraph) (connection : Nat) (t : Traversal) (bindings : Fields)
    (p : Patience) : Except RemoteError (List Value) × RemoteGraph :=
  let a := g.answers.headD (.rows [])
  let after := { g with answers := g.answers.tail }
  (if a.inTime p then g.interpret t a else .error (g.expired t),
    if a.reached p then after.record (.submitted connection t.script bindings) else after)

/-- Submit a traversal with bindings of any kind in the place of its own. -/
def executeWith (bindings : Value) (g : RemoteGraph) (t : Traversal) :
    Except RemoteError (List Value) × RemoteGraph :=
  if t.isEmpty then (.ok [], g)
  else
    match g.connection with
    | none => (.error .notOpen, g)
    | some n =>
      match bindings.toEntries with
      | .error e => (.error (.bindings e), g)
      | .ok bindings =>
        match Patience.ofLimit g.parameters.timeout with
        | .error e => (.error (.failed (subject t) e.fault), g)
        | .ok p => g.submit n t bindings p

/-- Submit a traversal. -/
def execute (g : RemoteGraph) (t : Traversal) :
    Except RemoteError (List Value) × RemoteGraph :=
  g.executeWith (.object t.bindings) t

end RemoteGraph

end EntityGraph
