import EntityGraph.Clock
import EntityGraph.Log.Record
import EntityGraph.Value.Json
/-!
Log records as lines.

* `Format.json`: one JSON object per record, with context, data and exception only when there are
  any.
* `Format.text`: time, level, logger, document, operation and message for people to read.
-/

namespace EntityGraph.Log

/-- The form in which records are written. -/
inductive Format where
  | json
  | text
  deriving DecidableEq, Repr, Inhabited

/-- The form with a given name: JSON under its own name, text under any other. -/
def Format.ofName (name : String) : Format := if name = "json" then .json else .text

namespace Record

/-- The fields of a record, written at a moment. -/
def toFields (r : Record) (moment : Nat) : Fields :=
  let context := r.context.fields.map fun (k, v) => (k, Value.str v)
  [("timestamp", .str (timestamp moment)), ("level", .str r.level.name),
    ("logger", .str r.logger), ("message", .str r.message)]
    ++ (if context.isEmpty then [] else [("context", .object context)])
    ++ (if r.data.isEmptyLike then [] else [("data", r.data)])
    ++ (r.attached.map fun a => ("exception", Value.str a.text)).toList

/-- A record as one JSON object. -/
def jsonLine (r : Record) (moment : Nat) : String := (Value.object (r.toFields moment)).toJson

/-- A text with blanks behind it up to a width. -/
def leftAligned (width : Nat) (s : String) : String :=
  s ++ String.ofList (List.replicate (width - s.length) ' ')

/-- A part of a line that is left out when it is missing or empty. -/
def bracketed (opening closing : String) : Option String → List String
  | none => []
  | some s => if s.isEmpty then [] else [opening ++ s ++ closing]

/-- A record as a line for people to read. -/
def textLine (r : Record) (moment : Nat) : String :=
  let parts := [plainTime moment, "[" ++ leftAligned 8 r.level.name ++ "]", r.logger]
    ++ bracketed "[" "]" r.context.document ++ bracketed "(" ")" r.context.operation
    ++ ["- " ++ r.message]
  " ".intercalate parts ++ ((r.attached.map fun a => "\n" ++ a.text).getD "")

/-- A record in a given form. -/
def line (r : Record) (format : Format) (moment : Nat) : String :=
  match format with
  | .json => r.jsonLine moment
  | .text => r.textLine moment

end Record

end EntityGraph.Log
