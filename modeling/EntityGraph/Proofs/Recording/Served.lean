import EntityGraph.Proofs.Language.Answers
import EntityGraph.Proofs.Recording.Ingestion
/-!
Batches whose entities are recognized by the text-analysis service.

* `Serving`: sessions in which no fault waits, and the service answers or is itself to blame.
* `Served`: an action that uses answers of the service from the front. If all of them can be read, it
  succeeds; it ends with what is wrong with an entity at the first one that cannot.
* `ingestOne_served`, `fates_served`: extracting and recording one document, or the documents of a
  batch, is such an action.
* `ingest_service_accounts`: a batch accounts for its documents if all answers that it uses can be
  read, and is stopped by the first one that cannot.
-/

namespace EntityGraph

namespace Recording

open EntityGraph.Action

/-- No fault waits for the graph. The service can be connected, and it answers every call or is
itself to blame that it does not. -/
structure Serving (s : Session) : Prop where
  faultless : s.Faultless
  connects : s.language.connected = true ∨ s.language.libraryMissing = false
  ordinary : ∀ a ∈ s.language.answers, a.Ordinary

/-- What comes of an action that has used some answers of the service: it succeeds with a value that
is as wanted if all of them can be read, and ends with what is wrong with an entity otherwise. -/
inductive Settled {α : Type} (Wanted : α → Prop) (used : List ServiceAnswer) :
    Except Failure α → Prop where
  | done (h : ∀ a ∈ used, a.Readable) (v : α) (hv : Wanted v) : Settled Wanted used (.ok v)
  | stopped (h : EndsUnreadable used) (issues : List Issue) :
      Settled Wanted used (.error (.invalid issues))

/-- A run of an action uses answers of the service from the front, is settled by them, and leaves a
session in which the service goes on. -/
structure Served {α : Type} (Wanted : α → Prop) (s : Session) (run : Except Failure α × Session) :
    Prop where
  serving : Serving run.2
  settled : ∃ used, s.language.answers = used ++ run.2.language.answers ∧ Settled Wanted used run.1

variable {p : Policy} {retry : RetryPolicy} {draws : Nat → Float} {raw : RawDocument} {run : String}
  {d : Document} {s t u : Session}

lemma Serving.of_eq (hs : Serving s) (hfaultless : t.Faultless) (h : t.language = s.language) :
    Serving t := by
  refine ⟨hfaultless, ?_, ?_⟩ <;> rw [h]
  · exact hs.connects
  · exact hs.ordinary

/-- What the service says is what recognition makes of it; the rest of the session stays as it is,
but for what is logged. -/
lemma service_eq (texts : List String) (s : Session) : ∃ journal, Recognizer.service texts s
    = ((LanguageService.recognize texts s.language).1.mapError LanguageError.toFailure,
      { s with language := (LanguageService.recognize texts s.language).2, journal }) :=
  ⟨_, rfl⟩

/-- What the service says about some texts. -/
lemma service_cases (texts : List String) (hs : Serving s) : ∃ used x t,
    Recognizer.service texts s = (x, t) ∧ Serving t ∧
    s.language.answers = used ++ t.language.answers ∧
    (((∀ a ∈ used, a.Readable) ∧ (∃ results, x = .ok results)) ∨
      ((∀ a ∈ used, a.Readable) ∧ ∃ e, x = .error e ∧ isExtractionFailure e = true) ∨
      EndsUnreadable used ∧ ∃ issues, x = .error (.invalid issues)) := by
  obtain ⟨used, hanswers, hconnected, haccounts⟩ :=
    LanguageService.recognize_accounted texts hs.ordinary hs.connects
  cases hrun : LanguageService.recognize texts s.language with
  | mk y after =>
      rw [hrun] at hanswers hconnected haccounts
      obtain ⟨journal, hservice⟩ := service_eq texts s
      rw [hrun] at hservice
      refine ⟨used, _, _, hservice, ⟨hs.faultless, .inl hconnected, fun a ha => ?_⟩, hanswers, ?_⟩
      · exact hs.ordinary a (hanswers ▸ List.mem_append_right used ha)
      · cases haccounts with
        | found h v => exact .inl ⟨h, v, rfl⟩
        | refused h f => exact .inr (.inl ⟨h, _, rfl, rfl⟩)
        | invalid h issues => exact .inr (.inr ⟨h, issues, rfl⟩)

/-- Once a document has been extracted, nothing can go wrong with it. -/
lemma served_of_extracts (hd : extract Recognizer.service raw s = (.ok d, t)) (ht : Serving t)
    {used : List ServiceAnswer} (hanswers : s.language.answers = used ++ t.language.answers)
    (hreadable : ∀ a ∈ used, a.Readable) :
    Served (fun f => f.id = raw.id ∧ ∀ id, f ≠ .failed id) s
      (ingestOne Recognizer.service (record p) retry draws raw s) := by
  obtain ⟨u, hrecord, hrun⟩ := recordRetrying_of_faultless p retry draws d ht.faultless
  obtain ⟨-, -, -, hfaultless⟩ := (record_performs p d).of_ok hrecord
  have hspares := (record_confined p d).spares
    { t with journal := t.journal ++ [.attempted ("record_document:" ++ d.id)] }
  rw [hrecord] at hspares
  have hlanguage : u.language = t.language := hspares.language
  have hone : ingestOne Recognizer.service (record p) retry draws raw s
      = (.ok (.recorded (recorded p d)), u) := by
    simp only [ingestOne, hd, hrun]
  rw [hone]
  refine ⟨ht.of_eq (hfaultless ht.faultless) hlanguage, used, ?_, .done hreadable _ ⟨?_, ?_⟩⟩
  · rwa [hlanguage]
  · exact (extracts_iff.mpr hd).id_eq
  · exact fun id => Fate.noConfusion

/-- **What becomes of one document**: it is recorded or skipped, unless an answer to its texts cannot
be read. -/
lemma ingestOne_served (p : Policy) (retry : RetryPolicy) (draws : Nat → Float)
    (raw : RawDocument) (hs : Serving s) : Served (fun f => f.id = raw.id ∧ ∀ id, f ≠ .failed id) s
      (ingestOne Recognizer.service (record p) retry draws raw s) := by
  by_cases htexts : raw.texts = []
  · exact served_of_extracts (extracts_iff.mp (.unasked htexts)) hs rfl
      fun a ha => absurd ha List.not_mem_nil
  · obtain ⟨used, x, t, hrun, ht, hanswers, ⟨h, results, rfl⟩ | ⟨h, e, rfl, he⟩ |
      ⟨h, issues, rfl⟩⟩ := service_cases raw.texts hs
    · obtain ⟨journal, hcollect⟩ := collect_eq raw.id results t
      have hd := extract_of_ok htexts hrun
      rw [hcollect] at hd
      exact served_of_extracts hd (ht.of_eq ht.faultless rfl) hanswers h
    · obtain ⟨message, hone⟩ := ingestOne_of_unrecognized (record p) retry draws
        (extract_of_error htexts hrun) ((isExtractionFailure_concerning raw.id e).trans he)
      rw [hone]
      exact ⟨ht.of_eq ht.faultless rfl, used, hanswers, .done h _ ⟨rfl, fun id => Fate.noConfusion⟩⟩
    · have hone : ingestOne Recognizer.service (record p) retry draws raw s
          = (.error (.invalid issues), t) := by
        simp only [ingestOne, extract_of_error htexts hrun]
        rfl
      rw [hone]
      exact ⟨ht, used, hanswers, .stopped h issues⟩

/-- **What becomes of a batch**: no document fails, unless an answer to its texts cannot be read. -/
theorem fates_served (p : Policy) (retry : RetryPolicy) (draws : Nat → Nat → Float) (run : String)
    (batch : List RawDocument) (hs : Serving s) :
    Served (fun fs => fs.map Fate.id = batch.map RawDocument.id ∧ ∀ f ∈ fs, ∀ id, f ≠ .failed id) s
      (fates Recognizer.service (record p) retry draws run batch s) := by
  induction batch generalizing s draws with
  | nil => exact ⟨hs, [], rfl, .done (fun a ha => absurd ha List.not_mem_nil) [] ⟨rfl, by simp⟩⟩
  | cons raw rest ih =>
      have ht : Serving (turn run raw.id s) := hs.of_eq hs.faultless rfl
      obtain ⟨hu, used, hanswers, hsettled⟩ := ingestOne_served p retry (draws 0) raw ht
      cases hone :
          ingestOne Recognizer.service (record p) retry (draws 0) raw (turn run raw.id s) with
      | mk result u =>
          rw [hone] at hu hanswers hsettled
          let v : Session :=
            { u with context := (s.context.enter (some raw.id) (some run)).2.leave u.context }
          have hv : Serving v := hu.of_eq hu.faultless rfl
          have hfirst : within raw.id (some run)
              (ingestOne Recognizer.service (record p) retry (draws 0) raw) s = (result, v) :=
            within_of_turn hone
          cases hsettled with
          | stopped h issues =>
              rw [fates_cons_of_error hfirst]
              exact ⟨hv, used, hanswers, .stopped h issues⟩
          | done h f hf =>
              obtain ⟨hend, more, hmore, hrest⟩ := ih (fun n => draws (n + 1)) hv
              rw [fates_cons_of_ok hfirst]
              refine ⟨hend, used ++ more, by rw [List.append_assoc, ← hmore]; exact hanswers, ?_⟩
              cases hfates :
                fates Recognizer.service (record p) retry (fun n => draws (n + 1)) run rest v with
              | mk result v' =>
                  rw [hfates] at hrest
                  cases hrest with
                  | done hmore fs hfs =>
                      refine .done (List.forall_mem_append.mpr ⟨h, hmore⟩) (f :: fs) ⟨?_, ?_⟩
                      · rw [List.map_cons, List.map_cons, hf.1, hfs.1]
                      · exact List.forall_mem_cons.mpr ⟨hf.2, hfs.2⟩
                  | stopped hmore issues => exact .stopped (hmore.append h) issues

/-- Where no document fails, the list of the failed ones is empty. -/
lemma failed_eq_nil {fs : List Fate} (h : ∀ f ∈ fs, ∀ id, f ≠ .failed id) :
    (outcome fs).failed = [] := by
  rw [outcome, List.filterMap_eq_nil_iff]
  intro f hf
  cases f with
  | failed id => exact absurd rfl (h _ hf id)
  | _ => rfl

/-- **A batch accounts for its documents as long as the answers of the service can be read.** No
fault waits for the graph, and the service answers every call or is itself to blame that it does
not. A batch uses some of the answers, from the front. If all entities in these pass the checks of
entities, the batch comes to its end, whatever the service has rejected or failed to answer: every
document is listed once, and none has failed. An answer with an entity that does not pass is the last
one that is used: the whole batch ends there with what is wrong with the entity, and nothing is
listed. -/
theorem ingest_service_accounts (p : Policy) (retry : RetryPolicy) (draws : Nat → Nat → Float)
    (batch : List RawDocument) (name : Option String) (hs : Serving s) :
    ∃ used, s.language.answers = used
        ++ (ingest Recognizer.service p retry draws batch name s).2.language.answers ∧
      ((∀ a ∈ used, a.Readable) →
        ∃ o, (ingest Recognizer.service p retry draws batch name s).1 = .ok o ∧
          (listed o).Perm (batch.map RawDocument.id) ∧ o.failed = []) ∧
      ∀ before a after, used = before ++ a :: after → ¬ a.Readable → after = [] ∧
        ∃ issues, (ingest Recognizer.service p retry draws batch name s).1
          = .error (.invalid issues) := by
  obtain ⟨hend, used, hanswers, hsettled⟩ := fates_served p retry draws (runName name) batch hs
  cases hrun : fates Recognizer.service (record p) retry draws (runName name) batch s with
  | mk result s' =>
      rw [hrun] at hanswers hsettled
      cases hsettled with
      | done h fs hfs =>
          obtain ⟨journal, hingest⟩ : ∃ journal, ingest Recognizer.service p retry draws batch name s
              = (.ok (outcome fs), { s' with journal }) :=
            ⟨_, by rw [ingest, ingestWith, bind_of_ok hrun]; rfl⟩
          rw [hingest]
          refine ⟨used, hanswers, fun _ => ⟨_, rfl, hfs.1 ▸ (perm_outcome fs).1,
            failed_eq_nil hfs.2⟩, ?_⟩
          rintro before a after rfl hnot
          exact absurd (h a (List.mem_append_right before List.mem_cons_self)) hnot
      | stopped h issues =>
          have hingest : ingest Recognizer.service p retry draws batch name s
              = (.error (.invalid issues), s') := by
            rw [ingest, ingestWith, bind_of_error hrun]
          rw [hingest]
          refine ⟨used, hanswers, fun hall => ?_, ?_⟩
          · obtain ⟨before, a, rfl, -, hnot⟩ := h
            exact absurd (hall a (List.mem_append_right before List.mem_cons_self)) hnot
          · rintro before a after rfl hnot
            exact ⟨h.eq_nil hnot, issues, rfl⟩

/-- Two documents of one text each. -/
def twoDocuments : List RawDocument := [⟨"first", ["one"], []⟩, ⟨"second", ["two"], []⟩]

/-- A session in which the service is going to give some answers. -/
def answering (answers : List ServiceAnswer) : Session where
  language := { parameters := {}, answers }

lemma serving_answering {answers : List ServiceAnswer} (h : ∀ a ∈ answers, a.Ordinary) :
    Serving (answering answers) := ⟨.of_eq_nil rfl, .inr rfl, h⟩

/-- An answer with one entity of some name. -/
def naming (name : String) : ServiceAnswer :=
  .items [{ entities := [[("text", .str name), ("category", .str "Person"),
    ("confidence_score", .float 0.9)]] }] none

/-- The service is down when the first document is extracted, and back for the second one. -/
theorem ingest_service_accounts_of_outage :
    ∃ o, (ingest Recognizer.service {} {} (fun _ _ => 0.5) twoDocuments none
        (answering [.raised { kind := .service, message := "down" }, naming "Ada"])).1 = .ok o ∧
      (listed o).Perm ["first", "second"] ∧ o.failed = [] := by
  have hs : Serving (answering [.raised { kind := .service, message := "down" }, naming "Ada"]) := by
    refine serving_answering fun a ha => ?_
    rcases List.mem_pair.mp ha with rfl | rfl
    · rfl
    · trivial
  obtain ⟨used, hanswers, hreturns, -⟩ :=
    ingest_service_accounts {} {} (fun _ _ => 0.5) twoDocuments none hs
  refine hreturns fun a ha => ?_
  have hmem : a ∈ (answering [.raised { kind := .service, message := "down" },
      naming "Ada"]).language.answers := hanswers ▸ List.mem_append_left _ ha
  rcases List.mem_pair.mp hmem with rfl | rfl
  · trivial
  · intro item hitem _ raw hraw
    obtain rfl := List.mem_singleton.mp hitem
    obtain rfl := List.mem_singleton.mp hraw
    exact ⟨_, rfl⟩

/-- **One blank name stops a batch**: nothing is returned, although the entities of the second
document could be read. -/
theorem not_ingest_service_accounts_of_blank :
    Serving (answering [naming " ", naming "Ada"]) ∧
      ¬ ∃ o, (ingest Recognizer.service {} {} (fun _ _ => 0.5) twoDocuments none
        (answering [naming " ", naming "Ada"])).1 = .ok o := by
  constructor
  · refine serving_answering fun a ha => ?_
    rcases List.mem_pair.mp ha with rfl | rfl <;> trivial
  · rintro ⟨o, ho⟩
    have hstopped : (ingest Recognizer.service {} {} (fun _ _ => 0.5) twoDocuments none
        (answering [naming " ", naming "Ada"])).1.isOk = false := by decide +kernel
    rw [ho] at hstopped
    exact Bool.noConfusion hstopped

end Recording

end EntityGraph
