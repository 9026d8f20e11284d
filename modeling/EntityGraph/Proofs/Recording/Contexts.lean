import EntityGraph.Proofs.Recording.Ingestion
import EntityGraph.Proofs.Session.Contexts
/-!
The log context behind recordings and batches, and in the turn of a document.

* `context_record`: behind a recording the context is that of before, without an operation.
* `Recognizer.Tidy`: recognition that leaves the document and the run at hand alone and logs about
  them only. `tidy_scripted` and `tidy_service` say that both kinds of recognition are tidy.
* `worksFor_ingestOne`: extracting and recording a document is work for whatever subject is at hand.
* `subject_fates`, `logged_fates`: behind a batch the document and the run of before are at hand,
  and what was logged in the turn of a document is about this document and the run of the batch.
* `logged_ingestWith`: what is said at the end of a batch is about the subject of before.
-/

namespace EntityGraph.Recording

open EntityGraph.Action

variable {x : Option String × Option String} {recognize : Recognizer} {recorder : Recorder}
  {retry : RetryPolicy} {draws : Nat → Float} {raw : RawDocument} {run : String} {d : Document}

/-! ### A recording -/

lemma logged_record (p : Policy) (d : Document) (s : Session) :
    (record p d s).2.context.subject = s.context.subject ∧
    s.Logged (some d.id, s.context.run) (record p d s).2 :=
  logged_within d.id none
    ((recordAll_of_sequential (sequential_worksFor _) p d).during "record_document")

/-- **Behind a recording**, whether it fails or not, the context is that of before, without an
operation. -/
theorem context_record (p : Policy) (d : Document) (s : Session) :
    (record p d s).2.context = s.context.setOperation none :=
  Log.Context.eq_of_subject (logged_record p d s).1 rfl

/-- Recording a document is work for it in whatever run is at hand. -/
lemma worksFor_record (p : Policy) (d : Document) (run : Option String) :
    (record p d).WorksFor (some d.id, run) := by
  intro s hs
  obtain ⟨hsubject, hlogged⟩ := logged_record p d s
  refine ⟨hsubject.trans hs, ?_⟩
  rwa [← (Prod.mk.inj hs).2]

lemma worksFor_retrying {α : Type} {attempt : Nat → Action α} (h : ∀ k, (attempt k).WorksFor x)
    (retry : RetryPolicy) (draws : Nat → Float) (operation : String) :
    (retrying retry draws operation attempt).WorksFor x := by
  refine RetryPolicy.moves_attempts .trans (fun k => ?_) (fun done e s => ?_) _ _
  · exact (worksFor_note (by simp)).bind fun _ => h k
  · rw [RetryPolicy.pause]
    split
    · exact (onlyLogs_log _ _ _).worksFor.bind (fun _ => worksFor_note (by simp)) s
    · exact .refl x s

lemma worksFor_recordRetrying (h : (recorder d).WorksFor x) :
    (recordRetrying recorder retry draws d).WorksFor x := by
  intro s
  have htried := worksFor_retrying (fun _ => h) retry draws ("record_document:" ++ d.id) s
  rw [recordRetrying]
  split
  next hrun => rwa [hrun] at htried
  next operation attempts last t hrun =>
    rw [hrun] at htried
    exact htried.trans ((onlyLogs_log_return _ _ _ _).worksFor t)
  next hrun => rwa [hrun] at htried

/-! ### Extraction -/

/-- Recognition that leaves the document and the run at hand alone, and logs about them only. -/
def Recognizer.Tidy (recognize : Recognizer) : Prop :=
  ∀ (texts : List String) (x : Option String × Option String), (recognize texts).WorksFor x

lemma onlyLogs_collect (document : String) (results : List Recognition) :
    (collect document results).OnlyLogs := by
  induction results with
  | nil => exact onlyLogs_pure []
  | cons r rest ih =>
      rw [collect]
      split
      · exact (onlyLogs_log _ _ _).bind fun _ => ih
      · exact ih.bind fun _ => onlyLogs_pure _

lemma worksFor_extract (h : recognize.Tidy) (raw : RawDocument) :
    (extract recognize raw).WorksFor x := by
  intro s
  cases hextract : extract recognize raw s with
  | mk result t =>
      cases result with
      | error e =>
          obtain ⟨-, e₁, hrun, -⟩ := exists_error_of_extract hextract
          have hrecognize := h raw.texts x s
          rwa [hrun] at hrecognize
      | ok d =>
          cases extracts_iff.mpr hextract with
          | unasked => exact .refl x s
          | @asked results t₁ htexts hrun =>
              have hrecognize := h raw.texts x s
              rw [hrun] at hrecognize
              exact hrecognize.trans ((onlyLogs_collect raw.id results).worksFor t₁)

/-- **Extracting and recording a document** is work for it. -/
lemma worksFor_ingestOne (h : recognize.Tidy)
    (hrecorder : ∀ d, d.id = raw.id → (recorder d).WorksFor x) :
    (ingestOne recognize recorder retry draws raw).WorksFor x := by
  intro s
  have hextract := worksFor_extract (x := x) h raw s
  rw [ingestOne]
  split
  next d t hrun =>
    rw [hrun] at hextract
    have hid : d.id = raw.id := (extracts_iff.mpr hrun).id_eq
    exact hextract.trans (worksFor_recordRetrying (hrecorder d hid) t)
  next e t hrun =>
    rw [hrun] at hextract
    split
    · exact hextract.trans ((onlyLogs_log_return _ _ _ _).worksFor t)
    · exact hextract

/-! ### A batch -/

/-- Behind a batch the document and the run of before are at hand, whatever is done in it. -/
lemma subject_fates (recognize : Recognizer) (recorder : Recorder) (retry : RetryPolicy)
    (draws : Nat → Nat → Float) (run : String) (batch : List RawDocument) :
    (fates recognize recorder retry draws run batch).Moves
      fun s s' => s'.context.subject = s.context.subject := by
  induction batch generalizing draws with
  | nil => exact fun s => rfl
  | cons raw rest ih =>
      refine Moves.bind (fun h h' => h'.trans h) (subject_within raw.id run _) fun fate => ?_
      exact Moves.bind (fun h h' => h'.trans h) (ih _) fun _ _ => rfl

/-- **The turn of a document**: whatever is logged in it is about this document and the run of the
batch. -/
theorem logged_fates (h : recognize.Tidy)
    (hrecorder : ∀ d, (recorder d).WorksFor (some d.id, some run))
    (draws : Nat → Nat → Float) (before : List RawDocument) (raw : RawDocument) (s : Session) :
    (fates recognize recorder retry draws run before s).2.Logged (some raw.id, some run)
      (fates recognize recorder retry draws run (before ++ [raw]) s).2 := by
  induction before generalizing s draws with
  | nil =>
      have hone : (ingestOne recognize recorder retry (draws 0) raw).WorksFor
          (some raw.id, some run) := worksFor_ingestOne h fun d hd => hd ▸ hrecorder d
      have hturn := (logged_within (s := s) raw.id (some run) hone).2
      rw [List.nil_append]
      cases hrun :
          within raw.id (some run) (ingestOne recognize recorder retry (draws 0) raw) s with
      | mk result t =>
          rw [hrun] at hturn
          cases result with
          | error e =>
              rw [fates_cons_of_error hrun]
              exact hturn
          | ok f =>
              rw [fates_cons_of_ok hrun]
              exact hturn
  | cons first before ih =>
      rw [List.cons_append]
      cases hrun :
          within first.id (some run) (ingestOne recognize recorder retry (draws 0) first) s with
      | mk result t =>
          cases result with
          | error e =>
              -- The batch is stopped before the document has its turn.
              rw [fates_cons_of_error hrun, fates_cons_of_error hrun]
              exact .refl _ _
          | ok f =>
              rw [fates_cons_of_ok hrun, fates_cons_of_ok hrun]
              exact ih _ t

/-- **The end of a batch**: the document and the run of before are at hand, and what is said about
the batch is about them. -/
theorem logged_ingestWith (recognize : Recognizer) (recorder : Recorder) (retry : RetryPolicy)
    (draws : Nat → Nat → Float) (batch : List RawDocument) (name : Option String) (s : Session) :
    (ingestWith recognize recorder retry draws batch name s).2.context.subject
      = s.context.subject ∧
    (fates recognize recorder retry draws (runName name) batch s).2.Logged s.context.subject
      (ingestWith recognize recorder retry draws batch name s).2 := by
  have hsubject := subject_fates recognize recorder retry draws (runName name) batch s
  cases hrun : fates recognize recorder retry draws (runName name) batch s with
  | mk result t =>
      rw [hrun] at hsubject
      cases result with
      | error e =>
          rw [ingestWith, bind_of_error hrun]
          exact ⟨hsubject, .refl _ _⟩
      | ok fs =>
          rw [ingestWith, bind_of_ok hrun]
          exact (onlyLogs_log_return _ _ _ _).worksFor t hsubject

/-! ### Both kinds of recognition -/

/-- Recognition from replies logs nothing. -/
lemma tidy_scripted : Recognizer.scripted.Tidy := by
  intro texts x s
  rcases scripted_cases texts s with h | ⟨r, rest, -, h⟩
  · rw [h]
    exact Session.worksFor_of_silence rfl ⟨[.recognized texts], rfl, by simp⟩
  · rw [h]
    exact Session.worksFor_of_silence rfl ⟨[.recognized texts], rfl, by simp⟩

/-- The warnings of the text-analysis service are logged in the context that is there. -/
lemma tidy_service : Recognizer.service.Tidy := by
  rintro texts x s rfl
  refine ⟨rfl, _, rfl, fun r hr => ?_⟩
  obtain ⟨message, -, heq⟩ := List.mem_map.mp hr
  rw [← Event.logged.inj heq]

end EntityGraph.Recording
