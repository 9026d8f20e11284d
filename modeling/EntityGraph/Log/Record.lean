import EntityGraph.Log.Context
import EntityGraph.Value.Basic
/-!
Log records.

* `Level`: how serious a record is. Levels are ordered by `Level.rank`.
* `Record`: a message with its level, the name of its logger and the context it was written in.
-/

namespace EntityGraph.Log

/-- How serious a record is: one of the usual levels, or one that has been added with a place among
them and a name of its own. -/
inductive Level where
  | debug
  | info
  | warning
  | error
  | critical
  | added (rank : Nat) (name : String)
  deriving DecidableEq, Repr, Inhabited

namespace Level

/-- The name of a level. -/
def name : Level → String
  | debug => "DEBUG"
  | info => "INFO"
  | warning => "WARNING"
  | error => "ERROR"
  | critical => "CRITICAL"
  | added _ name => name

/-- The usual level that a name in upper case stands for. Two levels have a second name. -/
def ofName? (s : String) : Option Level :=
  match s with
  | "DEBUG" => some debug
  | "INFO" => some info
  | "WARNING" | "WARN" => some warning
  | "ERROR" => some error
  | "CRITICAL" | "FATAL" => some critical
  | _ => none

/-- The place of a level among the others. -/
def rank : Level → Nat
  | debug => 10
  | info => 20
  | warning => 30
  | error => 40
  | critical => 50
  | added rank _ => rank

end Level

/-- An exception attached to a record. -/
structure Attached where
  kind : String
  message : String
  deriving DecidableEq, Repr

/-- An attached exception as text. -/
def Attached.text (a : Attached) : String :=
  if a.message.isEmpty then a.kind else a.kind ++ ": " ++ a.message

/-- A log record. -/
structure Record where
  level : Level
  logger : String
  message : String
  context : Context
  /-- Additional data, null when there is none. -/
  data : Value := .null
  attached : Option Attached := none
  deriving Repr, Inhabited

end EntityGraph.Log
