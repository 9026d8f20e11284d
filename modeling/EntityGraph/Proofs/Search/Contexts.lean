import EntityGraph.Proofs.Recording.Contexts
import EntityGraph.Proofs.Search.Bounded
/-!
The log context behind searches, and behind all that is done to the graph.

* `Session.Restores`, `Action.Restoring`: the document and the run at hand have stayed, and no
  operation is at hand if the graph was asked. `OnlyLogs.restoring_bind` says that log records may
  come first.
* `Search.Inquiry.Tidy`: recognition, where a search makes use of it, is tidy.
* `Search.restoring_run`: every search is of this kind.
* `contexts_restored`: no document and no run leaks out of a recording, a batch or a search.
-/

namespace EntityGraph

/-- The document and the run at hand have stayed, and no operation is at hand if the graph was
asked. -/
structure Session.Restores (s s' : Session) : Prop where
  subject : s'.context.subject = s.context.subject
  operation : s'.sent ≠ s.sent → s'.context.operation = none

namespace Session.Restores

variable {s t u : Session}

/-- When the graph has not been asked, the subject is all that matters. -/
lemma of_sent_eq (hsubject : t.context.subject = s.context.subject) (hsent : t.sent = s.sent) :
    s.Restores t := ⟨hsubject, fun h => absurd hsent h⟩

/-- What was done before the graph was asked does not matter as long as the subject has stayed. -/
lemma of_before (hsubject : t.context.subject = s.context.subject) (hsent : t.sent = s.sent)
    (h : t.Restores u) : s.Restores u :=
  ⟨h.subject.trans hsubject, fun hu => h.operation fun h' => hu (h'.trans hsent)⟩

end Session.Restores

namespace Action

variable {α β : Type} {a : Action α} {f : α → Action β}

/-- An action that leaves the document and the run at hand, and no operation if it asks the
graph. -/
abbrev Restoring (a : Action α) : Prop := a.Moves Session.Restores

lemma OnlyLogs.restoring (h : a.OnlyLogs) : a.Restoring := fun s =>
  .of_sent_eq (h.worksFor s rfl).1 (h.silent s)

lemma OnlyLogs.restoring_bind (ha : a.OnlyLogs) (hf : ∀ v, (f v).Restoring) :
    (a >>= f).Restoring := by
  intro s
  have hfirst := ha.restoring s
  have hsent := ha.silent s
  cases h : a s with
  | mk result t =>
      rw [h] at hfirst hsent
      cases result with
      | error e =>
          rw [bind_of_error h]
          exact hfirst
      | ok v =>
          rw [bind_of_ok h]
          exact .of_before hfirst.subject hsent (hf v t)

/-- Nothing happens when a value is returned. -/
lemma snd_bind_pure (a : Action α) (g : α → β) (s : Session) :
    ((do return g (← a)) s).2 = (a s).2 := by
  cases h : a s with
  | mk result t =>
      cases result with
      | error e => rw [bind_of_error h]
      | ok v =>
          rw [bind_of_ok h]
          rfl

end Action

namespace Search

open EntityGraph.Action Recording

variable {b : Bounds} {recognize : Recognizer}

/-- Once the graph has answered a search or refused it, no operation is at hand. -/
lemma operation_run (operation : String) (t : Traversal) (s : Session) :
    (run operation t s).2.context.operation = none := by
  have hnone : (during operation (execute t) s).2.context.operation = none := rfl
  cases h : during operation (execute t) s with
  | mk result u =>
      rw [h] at hnone
      cases result with
      | error e =>
          rw [run, bind_of_error h]
          exact hnone
      | ok rows =>
          rw [run, bind_of_ok h]
          exact hnone

/-- The last step of every search. -/
lemma restoring_read (operation : String) (t : Traversal) (shape : Row → Row) :
    (do return (← run operation t).map shape : Action (List Row)).Restoring := by
  intro s
  have hworks : (run operation t).WorksFor s.context.subject :=
    ((worksFor_execute t).during operation).bind fun rows =>
      (onlyLogs_log_return _ _ _ rows).worksFor
  rw [snd_bind_pure]
  exact ⟨(hworks s rfl).1, fun _ => operation_run operation t s⟩

lemma restoring_runFlat (operation : String) (t : Traversal) : (runFlat operation t).Restoring :=
  restoring_read operation t Row.flatten

/-- The last steps of most searches: the limit, and a traversal for it. -/
lemma restoring_limited (limit : Value) (operation : String) (make : Int → Traversal)
    (shape : Row → Row) : (do
      let n ← b.limit limit
      return (← run operation (make n)).map shape : Action (List Row)).Restoring :=
  (onlyLogs_bounded _ _ _ _).restoring_bind fun n => restoring_read operation (make n) shape

lemma restoring_common (texts limit : Value) : (common b texts limit).Restoring := by
  have hitems : ∀ items : List Value, (do
      let seeds ← seedsFrom [] items
      if seeds.length < 2 then Action.fail (.request .tooFewTexts)
      else
        let limit ← b.limit limit
        runFlat "find_common_connections" (.commonConnections seeds limit)
      : Action (List Row)).Restoring := by
    refine fun items => (onlyLogs_seedsFrom [] items).restoring_bind fun seeds => ?_
    split
    · exact (onlyLogs_fail _).restoring
    · exact restoring_limited limit _ (.commonConnections seeds) Row.flatten
  unfold common
  split
  · exact (onlyLogs_fail _).restoring_bind hitems
  · exact (onlyLogs_pure _).restoring_bind hitems
  · exact (onlyLogs_pure _).restoring_bind hitems
  · exact (onlyLogs_fail _).restoring_bind hitems

lemma restoring_byEntities (entities : List Entity) (limit : Value) :
    (byEntities b entities limit).Restoring := by
  refine (onlyLogs_bounded _ _ _ _).restoring_bind fun n => ?_
  split
  · exact restoring_runFlat _ _
  · exact (onlyLogs_check _).discard.restoring_bind fun _ => restoring_runFlat _ _

lemma restoring_naturalLanguage (hr : ∀ texts, (recognize texts).Silent) (ht : recognize.Tidy)
    (question limit : Value) : (naturalLanguage b recognize question limit).Restoring := by
  refine (onlyLogs_needText _ _).restoring_bind fun text => ?_
  refine (onlyLogs_bounded _ _ _ _).restoring_bind fun n s => ?_
  have hunanswered : ∀ level logger message,
      (do log level logger message; return [] : Action (List Row)).Restoring := fun _ _ _ =>
    (onlyLogs_log_return _ _ _ []).restoring
  have hsubject := (ht [text] _ s rfl).1
  have hsent := hr [text] s
  cases hrun : recognize [text] s with
  | mk result t =>
      rw [hrun] at hsubject hsent
      refine .of_before hsubject hsent ?_
      cases result with
      | error e =>
          dsimp only
          split
          · exact hunanswered _ _ _ t
          · exact (onlyLogs_fail e).restoring t
      | ok results =>
          dsimp only
          split
          · exact hunanswered _ _ _ t
          · split
            · exact hunanswered _ _ _ t
            · exact (onlyLogs_log _ _ _).restoring_bind (fun _ => restoring_byEntities _ _) t

/-- Recognition, where a search makes use of it, is tidy. -/
def Inquiry.Tidy : Inquiry → Prop
  | naturalLanguage recognize _ _ => recognize.Tidy
  | _ => True

/-- **Behind every search** the document and the run of before are at hand, and no operation if the
graph was asked. -/
theorem restoring_run (b : Bounds) (i : Inquiry) (hi : i.Discreet) (ht : i.Tidy) :
    (i.run b).Restoring := by
  cases i with
  | keywords query limit =>
      exact (onlyLogs_bounded _ _ _ _).restoring_bind fun n =>
        (onlyLogs_keywordTraversal query n).restoring_bind fun t => restoring_runFlat "search" t
  | byCategory category subCategory limit =>
      exact (onlyLogs_needText _ _).restoring_bind fun category =>
        (onlyLogs_needText? _ _).restoring_bind fun subCategory =>
          restoring_limited limit _ (.entitiesByCategory category subCategory) Row.flatten
  | byText pattern category limit =>
      exact (onlyLogs_needText _ _).restoring_bind fun pattern =>
        (onlyLogs_needText? _ _).restoring_bind fun category =>
          restoring_limited limit _ (.entitiesByText pattern category) Row.flatten
  | related text maxHops limit =>
      exact (onlyLogs_needText _ _).restoring_bind fun text =>
        (onlyLogs_bounded _ _ _ _).restoring_bind fun hops =>
          restoring_limited limit _ (.relatedEntities (vertexId text) hops) Row.flatten
  | documentsFor text limit =>
      exact (onlyLogs_needText _ _).restoring_bind fun text =>
        restoring_limited limit _ (.documentsForEntity (vertexId text)) Row.flatten
  | entitiesIn document =>
      exact (onlyLogs_needText _ _).restoring_bind fun document =>
        restoring_read _ (.entitiesInDocument document) Row.flattenAppearance
  | frequent minimum limit =>
      exact (onlyLogs_check _).restoring_bind fun minimum =>
        restoring_limited limit _ (.frequentPairs minimum) Row.flattenPair
  | common texts limit => exact restoring_common texts limit
  | byEntities entities limit => exact restoring_byEntities entities limit
  | naturalLanguage recognize question limit =>
      exact restoring_naturalLanguage hi ht question limit

end Search

open Recording Search

/-- **No context leaks.** Begin in any session, with any document, run and operation at hand, and do
one of three things, which may succeed or fail in any way. Behind a recording, the context is that
of before without an operation. Behind a batch, the document and the run of before are at hand; and
whatever is logged while a document of the batch is extracted and recorded is about that document
and the run of the batch, provided that recognition is tidy; what is said at the end is about what
was at hand before. Behind a search, the document and the run of before are at hand, and no
operation if the graph was asked; here recognition is tidy and does not ask the graph itself. -/
theorem contexts_restored (p : Policy) (retry : RetryPolicy) (draws : Nat → Nat → Float)
    (b : Bounds) (s : Session) :
    (∀ d : Document, (record p d s).2.context = s.context.setOperation none) ∧
    (∀ (recognize : Recognizer) (batch : List RawDocument) (name : Option String),
      (ingest recognize p retry draws batch name s).2.context.subject = s.context.subject ∧
      (recognize.Tidy → ∀ before raw after, batch = before ++ raw :: after →
        (fates recognize (record p) retry draws (runName name) before s).2.Logged
          (some raw.id, some (runName name))
          (fates recognize (record p) retry draws (runName name) (before ++ [raw]) s).2) ∧
      (fates recognize (record p) retry draws (runName name) batch s).2.Logged s.context.subject
        (ingest recognize p retry draws batch name s).2) ∧
    ∀ i : Inquiry, i.Discreet → i.Tidy →
      (i.run b s).2.context.subject = s.context.subject ∧
      ((i.run b s).2.sent ≠ s.sent → (i.run b s).2.context.operation = none) := by
  refine ⟨fun d => context_record p d s, fun recognize batch name => ?_, fun i hi ht => ?_⟩
  · obtain ⟨hsubject, hlogged⟩ := logged_ingestWith recognize (record p) retry draws batch name s
    refine ⟨hsubject, fun htidy before raw after _ => ?_, hlogged⟩
    exact logged_fates htidy (fun d => worksFor_record p d _) draws before raw s
  · have hrestores := restoring_run b i hi ht s
    exact ⟨hrestores.subject, hrestores.operation⟩

/-- A session with another document at hand, in which one text can be recognized and the next call
of the graph is struck. -/
def amidOtherWork : Session where
  context := ⟨some "report", some "nightly", some "import"⟩
  faults := [some { kind := .graph, message := "connection lost" }]
  replies := [.results [.object [("index", .int 0)]]]

/-- The other document stays at hand when a document is recorded, when three documents are ingested
by either kind of recognition, and when a question is asked, although the graph fails; the second of
the three documents is at hand in its turn. -/
theorem contexts_restored_of_amidOtherWork :
    (record {} ⟨"memo", [], []⟩ amidOtherWork).2.context = ⟨some "report", some "nightly", none⟩ ∧
    (∀ recognize ∈ [Recognizer.scripted, Recognizer.service],
      (ingest recognize {} oneRetry (fun _ _ => 0.5) threeDocuments (some "weekly")
        amidOtherWork).2.context.subject = (some "report", some "nightly") ∧
      (fates recognize (record {}) oneRetry (fun _ _ => 0.5) "weekly" [⟨"memo", ["Ada"], []⟩]
        amidOtherWork).2.Logged (some "letter", some "weekly")
        (fates recognize (record {}) oneRetry (fun _ _ => 0.5) "weekly"
          [⟨"memo", ["Ada"], []⟩, ⟨"letter", ["Berlin"], []⟩] amidOtherWork).2) ∧
    (naturalLanguage {} Recognizer.scripted (.str "Who?") (.int 5) amidOtherWork).2.context
      = ⟨some "report", some "nightly", none⟩ := by
  obtain ⟨hrecord, hingest, hsearch⟩ :=
    contexts_restored {} oneRetry (fun _ _ => 0.5) {} amidOtherWork
  refine ⟨hrecord _, fun recognize hrecognize => ?_, ?_⟩
  · have htidy : recognize.Tidy := by
      rcases List.mem_pair.mp hrecognize with rfl | rfl
      · exact tidy_scripted
      · exact tidy_service
    obtain ⟨hsubject, hturn, -⟩ := hingest recognize threeDocuments (some "weekly")
    exact ⟨hsubject, hturn htidy [_] _ [_] rfl⟩
  · obtain ⟨hsubject, hoperation⟩ := hsearch
      (.naturalLanguage Recognizer.scripted (.str "Who?") (.int 5)) silent_scripted tidy_scripted
    have hasked : ((Inquiry.naturalLanguage Recognizer.scripted (.str "Who?") (.int 5)).run {}
        amidOtherWork).2.sent ≠ amidOtherWork.sent := fun h =>
      absurd (congrArg List.length h) (by decide +kernel)
    exact Log.Context.eq_of_subject hsubject (hoperation hasked)

end EntityGraph
