import EntityGraph.Document.Read
import EntityGraph.Recording.Document
import EntityGraph.Recording.Retry
/-!
Recording a batch of documents.

* `Recognizer`: finds the entities of texts. `Recognizer.scripted` answers from the replies that the
  session holds, and `Recognizer.service` asks the text-analysis service.
* `Recorder`: records extracted documents; under a policy, this is `record`.
* `extract`: a document with the entities found in all of its texts.
* `ingestWith`: extracts and records each document of a batch on its own. A document whose
  recognition fails is skipped, and one whose writes keep failing is reported as failed; neither
  stops the rest. `ingest` is the same under a policy.
-/

namespace EntityGraph.Recording

/-- Finds the entities of some texts. -/
abbrev Recognizer := List String → Action (List Recognition)

/-- Records extracted documents. -/
abbrev Recorder := Document → Action Recorded

namespace Recognizer

/-- What a reply says once it has been checked. -/
def readReply : Reply → Except Failure (List Recognition)
  | .refused f => .error (.fault f)
  | .results items => items.mapM fun v => (Recognition.ofValue v).toExcept.mapError .invalid

/-- Answers with the next reply of the session, or with nothing when there is none. -/
def scripted : Recognizer := fun texts => do
  Action.note (.recognized texts)
  fun s =>
    match s.replies with
    | [] => (.ok [], s)
    | r :: rest => Action.ofExcept (readReply r) { s with replies := rest }

/-- The logger of the text-analysis service. -/
def serviceLog : String := "podgraph.nlp.azure_language"

/-- Asks the text-analysis service, whose warnings are logged. -/
def service : Recognizer := fun texts s =>
  let (result, after) := (LanguageService.recognize texts).run.run s.language
  let records := (after.warnings.drop s.language.warnings.length).map fun message =>
    Event.logged { level := .warning, logger := serviceLog, message, context := s.context }
  (result.mapError LanguageError.toFailure,
    { s with language := after, journal := s.journal ++ records })

end Recognizer

/-- The logger of batches. -/
def batchLog : String := "podgraph.pipeline.ingest"

/-- A failed recognition, with the document it was made for. -/
def concerning (document : String) : Failure → Failure
  | .fault f => .fault (if f.kind = .extraction then { f with document := some document } else f)
  | e => e

/-- The entities of the results that are no errors; an error is noted and adds none. -/
def collect (document : String) : List Recognition → Action (List Entity)
  | [] => pure []
  | r :: rest => do
    match r.error with
    | some e =>
      Action.log .warning batchLog
        ("Text " ++ toString r.index ++ " of document " ++ document ++ " skipped: " ++ e)
      collect document rest
    | none => return r.entities ++ (← collect document rest)

/-- A document with the entities found in all of its texts. Without texts, nothing is asked. -/
def extract (recognize : Recognizer) (raw : RawDocument) : Action Document :=
  if raw.texts.isEmpty then pure ⟨raw.id, raw.metadata, []⟩
  else fun s =>
    match recognize raw.texts s with
    | (.error e, s) => (.error (concerning raw.id e), s)
    | (.ok results, s) =>
      (do return ⟨raw.id, raw.metadata, ← collect raw.id results⟩ : Action Document) s

/-- What became of a document. -/
inductive Fate where
  | recorded (r : Recorded)
  | skipped (id : String)
  | failed (id : String)
  deriving Repr

/-- Whether a failure means that recognition failed. -/
def isExtractionFailure : Failure → Bool
  | .fault f => f.kind = .extraction
  | _ => false

/-- Record an extracted document, trying again as the policy says. There is a random draw for the
delay before every retry. -/
def recordRetrying (recorder : Recorder) (retry : RetryPolicy) (draws : Nat → Float)
    (d : Document) : Action Fate := fun s =>
  match retrying retry draws ("record_document:" ++ d.id) (fun _ => recorder d) s with
  | (.ok r, s) => (.ok (.recorded r), s)
  | (.error (.exhausted operation attempts last), s) =>
    (do
      Action.log .error batchLog ("Failed to record document " ++ d.id ++ ": "
        ++ (Failure.exhausted operation attempts last).message)
      return .failed d.id : Action Fate) s
  | (.error e, s) => (.error e, s)

/-- Extract and record one document. -/
def ingestOne (recognize : Recognizer) (recorder : Recorder) (retry : RetryPolicy)
    (draws : Nat → Float) (raw : RawDocument) : Action Fate := fun s =>
  match extract recognize raw s with
  | (.ok d, s) => recordRetrying recorder retry draws d s
  | (.error e, s) =>
    if isExtractionFailure e then
      (do
        Action.log .error batchLog ("Skipping document " ++ raw.id ++ ": " ++ e.message)
        return .skipped raw.id : Action Fate) s
    else (.error e, s)

/-- What became of the documents of a batch, one by one. The documents are numbered from 0, and each
has random draws of its own. -/
def fates (recognize : Recognizer) (recorder : Recorder) (retry : RetryPolicy)
    (draws : Nat → Nat → Float) (run : String) : List RawDocument → Action (List Fate)
  | [] => pure []
  | raw :: rest => do
    let fate ← Action.within raw.id (some run) (ingestOne recognize recorder retry (draws 0) raw)
    return fate :: (← fates recognize recorder retry (fun n => draws (n + 1)) run rest)

/-- The documents of a batch by what became of them. -/
def outcome (fates : List Fate) : BatchOutcome where
  recorded := fates.filterMap fun f => match f with | .recorded r => some r | _ => none
  skipped := fates.filterMap fun f => match f with | .skipped id => some id | _ => none
  failed := fates.filterMap fun f => match f with | .failed id => some id | _ => none

/-- The run that stands for one without a name. -/
def unnamedRun : String := "0123456789ab"

/-- The name of a run; an empty name is none. -/
def runName : Option String → String
  | some r => if r.isEmpty then unnamedRun else r
  | none => unnamedRun

/-- Extract and record every document of a batch. -/
def ingestWith (recognize : Recognizer) (recorder : Recorder) (retry : RetryPolicy)
    (draws : Nat → Nat → Float) (batch : List RawDocument) (run : Option String) :
    Action BatchOutcome := do
  let run := runName run
  let done := outcome (← fates recognize recorder retry draws run batch)
  Action.log .info batchLog ("Batch " ++ run ++ ": " ++ toString done.recorded.length
    ++ " recorded, " ++ toString done.skipped.length ++ " skipped, "
    ++ toString done.failed.length ++ " failed")
  return done

/-- Extract every document of a batch and record it under a policy. -/
def ingest (recognize : Recognizer) (p : Policy) (retry : RetryPolicy)
    (draws : Nat → Nat → Float) (batch : List RawDocument) (run : Option String) :
    Action BatchOutcome :=
  ingestWith recognize (record p) retry draws batch run

end EntityGraph.Recording
