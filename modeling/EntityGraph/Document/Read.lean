import EntityGraph.Document.Basic
import EntityGraph.Entity.Read
/-!
Documents and reports read from untyped records.

* `RawDocument.ofValue`, `Recognition.ofValue`, `Document.ofValue`, `Recorded.ofValue`,
  `BatchOutcome.ofValue`: one reader for each kind of record. Issues come in the order of the
  fields.
-/

namespace EntityGraph

open Checked

/-- A document before recognition. -/
def RawDocument.ofValue (v : Value) : Checked RawDocument :=
  (fieldsOf "RawDocument" v).andThen fun fields =>
    RawDocument.mk <$> required fields ["id"] filledText
      <*> withDefault fields ["texts"] [] (listOf Checked.text)
      <*> withDefault fields ["metadata"] [] textMap

/-- What recognition says about one text. -/
def Recognition.ofValue (v : Value) : Checked Recognition :=
  (fieldsOf "EntityRecognitionResult" v).andThen fun fields =>
    Recognition.mk <$> required fields ["index"] integer
      <*> withDefault fields ["entities"] [] (listOf Entity.ofValue)
      <*> withDefault fields ["error"] none (optional Checked.text)

/-- A document with its entities. -/
def Document.ofValue (v : Value) : Checked Document :=
  (fieldsOf "SourceDocument" v).andThen fun fields =>
    Document.mk <$> required fields ["id"] filledText
      <*> withDefault fields ["metadata"] [] textMap
      <*> withDefault fields ["entities"] [] (listOf Entity.ofValue)

/-- What was written for one document. -/
def Recorded.ofValue (v : Value) : Checked Recorded :=
  (fieldsOf "RecordResult" v).andThen fun fields =>
    Recorded.mk <$> required fields ["document_id"] Checked.text
      <*> withDefault fields ["persisted_entities"] [] (listOf Entity.ofValue)
      <*> withDefault fields ["relationship_pairs"] 0 integer

/-- The fate of the documents of a batch. -/
def BatchOutcome.ofValue (v : Value) : Checked BatchOutcome :=
  (fieldsOf "BatchIngestResult" v).andThen fun fields =>
    BatchOutcome.mk <$> withDefault fields ["recorded"] [] (listOf Recorded.ofValue)
      <*> withDefault fields ["skipped"] [] (listOf Checked.text)
      <*> withDefault fields ["failed"] [] (listOf Checked.text)

end EntityGraph
