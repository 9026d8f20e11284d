import EntityGraph.Document.Basic
import EntityGraph.Entity.Read
import EntityGraph.Fault
import EntityGraph.Settings.Selection
import EntityGraph.Value.Text
/-!
A text-analysis service that recognizes entities and writes summaries.

* `LanguageService`: the parameters, what the service is going to answer, the calls made so far and
  the warnings given.
* `recognize`: the texts are sent in batches of at most five; a text that the service rejects has an
  error as its result, while a call that fails ends the recognition.
* `summarize`: the summaries of some texts as one text; rejected texts are left out.
* `LanguageError`: why there is no answer.
-/

namespace EntityGraph

/-- What the service says about one text. -/
structure ServiceItem where
  /-- The code and the message of a rejection. -/
  rejection : Option (String × String) := none
  id : Value := .null
  entities : List Fields := []
  sentences : List String := []
  summaries : List String := []
  deriving Repr, Inhabited

/-- What the service answers to one call. -/
inductive ServiceAnswer where
  /-- Items, and a fault that comes after them. -/
  | items (items : List ServiceItem) (interruption : Option Fault)
  | raised (f : Fault)
  deriving Repr

/-- A call of the service. -/
inductive ServiceCall where
  | recognize (texts : List String) (language : Value)
  | extractSummary (texts : List String) (sentences : Nat) (language : Value)
  | abstractSummary (texts : List String) (sentences : Nat) (language : Value)
  | close
  deriving Repr

/-- Why the service gives no answer. -/
inductive LanguageError where
  /-- The library that speaks to the service is not installed. -/
  | libraryMissing
  | recognition (cause : Fault)
  | summary (kind : String) (cause : Fault)
  | nothingSummarized (kind : Value)
  /-- The kind of a summary is no text. -/
  | notText (e : NotText)
  /-- A fault that is none of the service. -/
  | fault (f : Fault)
  /-- An entity of the service is no entity. -/
  | invalid (issues : List Issue)
  deriving Repr

/-- What an error says. -/
def LanguageError.message : LanguageError → String
  | libraryMissing => "azure-ai-textanalytics package required: pip install podgraph[azure]"
  | recognition cause => "Entity recognition failed: " ++ cause.message
  | summary kind cause => Text.capitalize kind ++ " summarization failed: " ++ cause.message
  | nothingSummarized kind => "No text could be summarized (" ++ kind.plain ++ ")"
  | notText e => e.message
  | fault f => f.message
  | invalid _ => ""

/-- A text-analysis service. -/
structure LanguageService where
  parameters : LanguageParameters
  libraryMissing : Bool := false
  /-- Whether a connection has been made. It is made once, by the first call. -/
  connected : Bool := false
  /-- The answers to the next calls. -/
  answers : List ServiceAnswer := []
  calls : List ServiceCall := []
  warnings : List String := []
  deriving Repr

/-- Something asked of the service. -/
abbrev LanguageAction (α : Type) := ExceptT LanguageError (StateM LanguageService) α

namespace LanguageService

/-- The most texts in one call of recognition. -/
def batchSize : Nat := 5

/-- Make the connection unless it is there. -/
def connect : LanguageAction Unit := fun s =>
  if s.connected then (.ok (), s)
  else if s.libraryMissing then (.error .libraryMissing, s)
  else (.ok (), { s with connected := true })

/-- Give a warning. -/
def warn (message : String) : LanguageAction Unit := fun s =>
  (.ok (), { s with warnings := s.warnings ++ [message] })

/-- Make a call: the next answer, or no items when there is none. -/
def call (c : ServiceCall) : LanguageAction ServiceAnswer := fun s =>
  let asked := { s with calls := s.calls ++ [c] }
  match s.answers with
  | [] => (.ok (.items [] none), asked)
  | a :: rest => (.ok a, { asked with answers := rest })

/-- Fail. -/
def fail {α : Type} (e : LanguageError) : LanguageAction α := fun s => (.error e, s)

/-- A fault, as an error of its own when the service is to blame. -/
def blame (wrap : Fault → LanguageError) (f : Fault) : LanguageError :=
  if f.kind = .service then wrap f else .fault f

/-! ### Recognition -/

/-- An entity of the service under the names of ours. -/
def renamed (raw : Fields) : Value :=
  .object [("text", raw.getD "text"), ("category", raw.getD "category"),
    ("sub_category", raw.getD "subcategory"), ("confidence_score", raw.getD "confidence_score"),
    ("offset", raw.getD "offset"), ("length", raw.getD "length")]

/-- What an item says about the text at a place. -/
def interpret (index : Nat) (item : ServiceItem) : LanguageAction Recognition :=
  match item.rejection with
  | some (code, message) => do
    let error := code ++ ": " ++ message
    warn ("Entity recognition failed for text " ++ toString index ++ ": " ++ error)
    return ⟨index, [], some error⟩
  | none =>
    match item.entities.mapM fun raw => (Entity.ofValue (renamed raw)).toExcept with
    | .ok entities => return ⟨index, entities, none⟩
    | .error issues => fail (.invalid issues)

/-- What items say about the texts from a place on. -/
def interpretAll : Nat → List ServiceItem → LanguageAction (List Recognition)
  | _, [] => pure []
  | index, item :: rest => do
    let r ← interpret index item
    return r :: (← interpretAll (index + 1) rest)

/-- Texts in batches of `size + 1`; the last one may be smaller. -/
def batches (size : Nat) : List String → List (List String)
  | [] => []
  | t :: rest => (t :: rest.take size) :: batches size (rest.drop size)
  termination_by texts => texts.length

/-- Recognize the entities of some batches, the first of which starts at a place. -/
def recognizeBatches : Nat → List (List String) → LanguageAction (List Recognition)
  | _, [] => pure []
  | start, batch :: rest => do
    let language := (← get).parameters.language
    match ← call (.recognize batch language) with
    | .raised f => fail (blame .recognition f)
    | .items items _ =>
      let found ← interpretAll start items
      return found ++ (← recognizeBatches (start + batch.length) rest)

/-- Recognize the entities of some texts. -/
def recognize (texts : List String) : LanguageAction (List Recognition) := do
  connect
  recognizeBatches 0 (batches (batchSize - 1) texts)

/-! ### Summaries -/

/-- The kind of summary that is made of sentences of the text. -/
def extractive : String := "extractive"

/-- Whether a value asks for a summary of that kind. Every other value asks for one in other words.
-/
def isExtractive (kind : Value) : Bool := kind.text? == some extractive

/-- A fault on the way to a summary, reported with the kind of summary. -/
def summaryError (kind : Value) (f : Fault) : LanguageError :=
  match kind.needText .capitalize with
  | .ok kind => .summary kind f
  | .error e => .notText e

/-- The parts of a summary. -/
def summaryParts (kind : Value) : List ServiceItem → LanguageAction (List String)
  | [] => pure []
  | item :: rest =>
    match item.rejection with
    | some (code, message) => do
      warn ("Could not summarize text " ++ item.id.plain ++ ": " ++ message ++ " (" ++ code ++ ")")
      summaryParts kind rest
    | none => do
      let texts := if isExtractive kind then item.sentences else item.summaries
      return ".\n".intercalate texts :: (← summaryParts kind rest)

/-- Summarize some texts as one text. -/
def summarize (texts : List String) (kind : Value) : LanguageAction String := do
  connect
  let language := (← get).parameters.language
  let request := if isExtractive kind then ServiceCall.extractSummary texts 1 language
    else .abstractSummary texts 1 language
  match ← call request with
  | .raised f => fail (blame (summaryError kind) f)
  | .items items interruption =>
    let parts ← summaryParts kind items
    match interruption with
    | some f => fail (blame (summaryError kind) f)
    | none =>
      if !texts.isEmpty && parts.isEmpty then fail (.nothingSummarized kind)
      else return Text.strip ("\n".intercalate parts)

/-- End the connection, if there is one. It serves further calls all the same. -/
def close : LanguageAction Unit := fun s =>
  if s.connected then (.ok (), { s with calls := s.calls ++ [.close] }) else (.ok (), s)

end LanguageService

end EntityGraph
