import EntityGraph.Proofs.Recording.Ingestion
import EntityGraph.Proofs.Recording.Insulated
/-!
Documents that are skipped.

A document whose recognition fails takes no reading of the clock, writes nothing, and uses up no
fault. The documents after it are recorded as if it had not been in the batch.

* `Steady`: recognition whose answer depends on the texts alone, and which leaves the store alone.
* `extraction`, `skips`: what such an answer makes of a raw document, and whether it is skipped.
  `extracted` lists the documents that are extracted until something else goes wrong.
* `fates_filter`: what comes of a batch with and without the documents that are skipped.
* `store_fates`: without them, the store is that of the extracted documents, recorded directly.
* `ingest_without_skipped`: both together.
-/

namespace EntityGraph.Recording

open EntityGraph.Action

/-- Recognition whose answer depends on the texts alone, and which leaves the store alone. -/
structure Steady (recognize : Recognizer)
    (answer : List String → Except Failure (List Recognition)) : Prop where
  answers : ∀ texts s, (recognize texts s).1 = answer texts
  spares : ∀ texts s, (recognize texts s).2.store = s.store

/-- What the answers of recognition make of a raw document. Without texts, they do not matter. -/
def extraction (answer : List String → Except Failure (List Recognition)) (raw : RawDocument) :
    Except Failure Document :=
  if raw.texts = [] then .ok ⟨raw.id, raw.metadata, []⟩
  else
    match answer raw.texts with
    | .ok results => .ok ⟨raw.id, raw.metadata, gathered results⟩
    | .error e => .error (concerning raw.id e)

/-- Whether recognition is asked about a document and fails, so that the document is skipped. -/
def skips (answer : List String → Except Failure (List Recognition)) (raw : RawDocument) : Bool :=
  raw.texts ≠ [] &&
    match answer raw.texts with
    | .ok _ => false
    | .error e => isExtractionFailure e

/-- The documents that are extracted, up to the first one for which extraction fails. -/
def extracted (answer : List String → Except Failure (List Recognition)) :
    List RawDocument → List Document
  | [] => []
  | raw :: rest =>
    match extraction answer raw with
    | .ok d => d :: extracted answer rest
    | .error _ => []

/-- What a batch reports about the documents that were not skipped. -/
def lists (o : BatchOutcome) : List Recorded × List String := (o.recorded, o.failed)

variable {recognize : Recognizer} {answer : List String → Except Failure (List Recognition)}
  {p : Policy} {retry : RetryPolicy} {raw : RawDocument} {run : String} {s t u : Session}
  {d : Document} {e : Failure} {f : Fate}

/-! ### Extraction -/

/-- A document is skipped exactly if its extraction fails as such. -/
lemma skips_iff : skips answer raw = true ↔
    ∃ e, extraction answer raw = .error e ∧ isExtractionFailure e = true := by
  by_cases htexts : raw.texts = []
  · simp [skips, extraction, htexts]
  · cases hanswer : answer raw.texts with
    | ok results => simp [skips, extraction, htexts, hanswer]
    | error e => simp [skips, extraction, htexts, hanswer, isExtractionFailure_concerning]

/-- **Extraction** has the value that the answers decide, and leaves the store alone. -/
lemma Steady.extract (h : Steady recognize answer) (raw : RawDocument) (s : Session) :
    ∃ s', extract recognize raw s = (extraction answer raw, s') ∧ s'.store = s.store := by
  by_cases htexts : raw.texts = []
  · exact ⟨s, by simp [Recording.extract, extraction, htexts]; rfl, rfl⟩
  · cases hrun : recognize raw.texts s with
    | mk result s' =>
        have hanswer : result = answer raw.texts := by rw [← h.answers raw.texts s, hrun]
        have hstore : s'.store = s.store := by rw [← h.spares raw.texts s, hrun]
        rw [extraction, if_neg htexts, ← hanswer]
        cases result with
        | error e => exact ⟨s', extract_of_error htexts hrun, hstore⟩
        | ok results =>
            obtain ⟨journal, hcollect⟩ := collect_eq raw.id results s'
            rw [extract_of_ok htexts hrun, hcollect]
            exact ⟨_, rfl, hstore⟩

/-! ### One document -/

/-- What is done for a document that is skipped leaves the store alone. -/
lemma ingestOne_of_skips (h : Steady recognize answer) (recorder : Recorder) (retry : RetryPolicy)
    (draws : Nat → Float) (hskip : skips answer raw = true) (s : Session) :
    ∃ u, ingestOne recognize recorder retry draws raw s = (.ok (.skipped raw.id), u) ∧
      u.store = s.store := by
  obtain ⟨e, hextraction, he⟩ := skips_iff.mp hskip
  obtain ⟨s', hextract, hstore⟩ := h.extract raw s
  rw [hextraction] at hextract
  obtain ⟨message, hone⟩ := ingestOne_of_unrecognized recorder retry draws hextract he
  exact ⟨_, hone, hstore⟩

/-- What is done for any document sees nothing but the store, whatever is drawn. -/
lemma ingestOne_alike (h : Steady recognize answer) (p : Policy) (retry : RetryPolicy)
    (draws draws' : Nat → Float) (raw : RawDocument) :
    (ingestOne recognize (record p) retry draws raw).Alike
      (ingestOne recognize (record p) retry draws' raw) := by
  intro s t hst
  obtain ⟨s', hs, hs'⟩ := h.extract raw s
  obtain ⟨t', ht, ht'⟩ := h.extract raw t
  have hstore : s'.store = t'.store := by rw [hs', ht', hst]
  rw [ingestOne, ingestOne]
  simp only [hs, ht]
  cases extraction answer raw with
  | ok d => exact recordRetrying_alike p retry draws draws' d s' t' hstore
  | error e =>
      simp only
      split
      · exact (((insulated_log .error batchLog _).bind fun _ => insulated_pure _) s' t' hstore)
      · exact ⟨rfl, hstore⟩

/-- Where no fault waits, a document that is extracted is recorded, and the store is that after
recording it directly. -/
lemma ingestOne_of_extraction (h : Steady recognize answer) (p : Policy) (retry : RetryPolicy)
    (draws : Nat → Float) (hd : extraction answer raw = .ok d) (hs : s.Faultless) :
    ∃ u, ingestOne recognize (record p) retry draws raw s = (.ok (.recorded (recorded p d)), u) ∧
      u.store = (record p d s).2.store := by
  obtain ⟨s', hextract, hstore⟩ := h.extract raw s
  rw [hd] at hextract
  have hs' : s'.Faultless := by
    rw [Session.Faultless, show s'.faults = s.faults from congrArg Store.faults hstore]
    exact hs
  obtain ⟨u, hrecord, hrun⟩ := recordRetrying_of_faultless p retry draws d hs'
  refine ⟨u, by simp only [ingestOne, hextract, hrun], ?_⟩
  have hsame := (record_insulated p d
    { s' with journal := s'.journal ++ [.attempted ("record_document:" ++ d.id)] } s hstore).2
  rwa [hrecord] at hsame

/-! ### A batch -/

lemma lists_outcome_cons (f : Fate) {fs fs' : List Fate}
    (h : lists (outcome fs) = lists (outcome fs')) :
    lists (outcome (f :: fs)) = lists (outcome (f :: fs')) := by
  obtain ⟨hrecorded, hfailed⟩ := Prod.mk.inj h
  cases f with
  | recorded r => exact Prod.ext (congrArg (r :: ·) hrecorded) hfailed
  | skipped id => exact h
  | failed id => exact Prod.ext hrecorded (congrArg (id :: ·) hfailed)

/-- What is reported about a document does not depend on what is reported about the others. -/
lemma map_lists_cons (f : Fate) {r r' : Except Failure (List Fate)}
    (h : r.map (fun fs => lists (outcome fs)) = r'.map (fun fs => lists (outcome fs))) :
    (r.map (f :: ·)).map (fun fs => lists (outcome fs))
      = (r'.map (f :: ·)).map (fun fs => lists (outcome fs)) := by
  cases r with
  | error e =>
      cases r' with
      | error e' => exact h
      | ok fs' => exact absurd h (by simp [Except.map])
  | ok fs =>
      cases r' with
      | error e' => exact absurd h (by simp [Except.map])
      | ok fs' => exact congrArg Except.ok (lists_outcome_cons f (Except.ok.inj h))

/-- **A batch with and without the documents that are skipped**: the same is reported about the
others, and the same store is left, whatever is drawn in one run and in the other. -/
theorem fates_filter (h : Steady recognize answer) (p : Policy) (retry : RetryPolicy)
    (draws draws' : Nat → Nat → Float) (run : String) (batch : List RawDocument)
    (hst : s.store = t.store) :
    ∃ r r' s' t', fates recognize (record p) retry draws run batch s = (r, s') ∧
      fates recognize (record p) retry draws' run (batch.filter fun raw => !skips answer raw) t
        = (r', t') ∧
      r.map (fun fs => lists (outcome fs)) = r'.map (fun fs => lists (outcome fs)) ∧
      s'.store = t'.store := by
  induction batch generalizing s t draws draws' with
  | nil => exact ⟨_, _, s, t, rfl, rfl, rfl, hst⟩
  | cons raw rest ih =>
      by_cases hskip : skips answer raw = true
      · -- the document is skipped in one run, and missing in the other
        obtain ⟨u, hone, hu⟩ :=
          ingestOne_of_skips h (record p) retry (draws 0) hskip (turn run raw.id s)
        obtain ⟨r, r', s', t', hs, ht, hlists, hstore⟩ := ih (fun n => draws (n + 1)) draws'
          (s := { u with context := (s.context.enter (some raw.id) (some run)).2.leave u.context })
          (hu.trans hst)
        rw [List.filter_cons_of_neg (by simp [hskip])]
        refine ⟨r.map (.skipped raw.id :: ·), r', s', t', ?_, ht, ?_, hstore⟩
        · rw [fates_cons_of_ok (within_of_turn hone), hs]
        · rw [← hlists]
          cases r <;> rfl
      · rw [List.filter_cons_of_pos (by simpa using hskip)]
        obtain ⟨x, s₁, t₁, hs₁, ht₁, hstore₁⟩ := ((ingestOne_alike h p retry (draws 0) (draws' 0)
          raw).within raw.id (some run)).cases hst
        cases x with
        | error e =>
            exact ⟨_, _, s₁, t₁, fates_cons_of_error hs₁, fates_cons_of_error ht₁, rfl, hstore₁⟩
        | ok f =>
            obtain ⟨r, r', s', t', hs, ht, hlists, hstore⟩ :=
              ih (fun n => draws (n + 1)) (fun n => draws' (n + 1)) hstore₁
            refine ⟨r.map (f :: ·), r'.map (f :: ·), s', t', ?_, ?_, ?_, hstore⟩
            · rw [fates_cons_of_ok hs₁, hs]
            · rw [fates_cons_of_ok ht₁, ht]
            · exact map_lists_cons f hlists

/-- **A batch without documents that are skipped**, where no fault waits: the store is that after
recording the extracted documents directly. If all documents are extracted, all are recorded. -/
theorem store_fates (h : Steady recognize answer) (p : Policy) (retry : RetryPolicy)
    (draws : Nat → Nat → Float) (run : String) (batch : List RawDocument) (hs : s.Faultless)
    (hbatch : ∀ raw ∈ batch, skips answer raw = false) :
    (fates recognize (record p) retry draws run batch s).2.store
      = (recordEach p (extracted answer batch) s).store ∧
    ((∀ raw ∈ batch, ∃ d, extraction answer raw = .ok d) →
      (fates recognize (record p) retry draws run batch s).1
        = .ok ((extracted answer batch).map fun d => .recorded (recorded p d))) := by
  induction batch generalizing s draws with
  | nil => exact ⟨rfl, fun _ => rfl⟩
  | cons raw rest ih =>
      cases hd : extraction answer raw with
      | error e =>
          have hraw := hbatch raw List.mem_cons_self
          obtain ⟨s', hextract, hstore⟩ := h.extract raw (turn run raw.id s)
          have hone : ingestOne recognize (record p) retry (draws 0) raw (turn run raw.id s)
              = (.error e, s') := by
            have he : isExtractionFailure e = false := by
              rw [← Bool.not_eq_true]
              intro he
              rw [skips_iff.mpr ⟨e, hd, he⟩] at hraw
              exact absurd hraw (by simp)
            rw [hd] at hextract
            simp only [ingestOne, hextract, he, Bool.false_eq_true, if_false]
          rw [fates_cons_of_error (within_of_turn hone), extracted, hd]
          refine ⟨hstore, fun hall => ?_⟩
          obtain ⟨d, hd'⟩ := hall raw List.mem_cons_self
          rw [hd] at hd'
          exact absurd hd' (by simp)
      | ok d =>
          obtain ⟨u, hone, hu⟩ :=
            ingestOne_of_extraction (s := turn run raw.id s) h p retry (draws 0) hd hs
          have hfirst := within_of_turn hone
          have hstore : u.store = (record p d s).2.store :=
            hu.trans (record_insulated p d (turn run raw.id s) s rfl).2
          have hfaultless : u.Faultless := by
            obtain ⟨s', hrun⟩ := (record_performs p d).succeeds hs
            have hs' := ((record_performs p d).of_ok hrun).2.2.2 hs
            rw [hrun] at hstore
            rwa [Session.Faultless, show u.faults = s'.faults from congrArg Store.faults hstore]
          obtain ⟨hrest, hreports⟩ := ih (fun n => draws (n + 1)) (s := { u with
              context := (s.context.enter (some raw.id) (some run)).2.leave u.context }) hfaultless
            fun raw' hraw' => hbatch raw' (List.mem_cons_of_mem raw hraw')
          rw [fates_cons_of_ok hfirst, extracted, hd]
          refine ⟨hrest.trans (store_recordEach p _ hstore), fun hall => ?_⟩
          rw [hreports fun raw' hraw' => hall raw' (List.mem_cons_of_mem raw hraw')]
          rfl

lemma lists_outcome_recorded (p : Policy) (ds : List Document) :
    lists (outcome (ds.map fun d => .recorded (recorded p d))) = (ds.map (recorded p), []) := by
  induction ds with
  | nil => rfl
  | cons d ds ih =>
      obtain ⟨hrecorded, hfailed⟩ := Prod.mk.inj ih
      exact Prod.ext (congrArg (recorded p d :: ·) hrecorded) hfailed

/-- What a batch reports, and the store that it leaves, come from the fates of its documents. -/
lemma ingest_of_fates {draws : Nat → Nat → Float} {batch : List RawDocument} {name : Option String}
    {r : Except Failure (List Fate)}
    (h : fates recognize (record p) retry draws (runName name) batch s = (r, t)) :
    (ingest recognize p retry draws batch name s).1.map lists
        = r.map (fun fs => lists (outcome fs)) ∧
      (ingest recognize p retry draws batch name s).2.store = t.store := by
  rw [ingest, ingestWith]
  cases r with
  | error e =>
      rw [bind_of_error h]
      exact ⟨rfl, rfl⟩
  | ok fs =>
      rw [bind_of_ok h]
      exact ⟨rfl, rfl⟩

/-- **Skipped documents leave no trace.** Recognition answers by the texts alone. A batch reports the
same documents as recorded and as failed as the batch without the documents that are skipped, or
ends with the same failure, and leaves the same store: the same graph with all times and edge
numbers, the same clock, and the same faults still to come. What is drawn for the delays may differ
between the two. Where no fault waits, this is the store after recording the extracted documents of
the remaining batch directly, in order; and if all of them are extracted, all are recorded and none
has failed. -/
theorem ingest_without_skipped (h : Steady recognize answer) (p : Policy) (retry : RetryPolicy)
    (draws draws' : Nat → Nat → Float) (batch kept : List RawDocument) (name : Option String)
    (s : Session) (hkept : kept = batch.filter fun raw => !skips answer raw) :
    (ingest recognize p retry draws batch name s).1.map lists
        = (ingest recognize p retry draws' kept name s).1.map lists ∧
    (ingest recognize p retry draws batch name s).2.store
        = (ingest recognize p retry draws' kept name s).2.store ∧
    (s.Faultless → (ingest recognize p retry draws batch name s).2.store
        = (recordEach p (extracted answer kept) s).store ∧
      ((∀ raw ∈ kept, ∃ d, extraction answer raw = .ok d) →
        (ingest recognize p retry draws batch name s).1.map lists
          = .ok ((extracted answer kept).map (recorded p), []))) := by
  obtain ⟨r, r', s', t', hs, ht, hlists, hstore⟩ :=
    fates_filter h p retry draws draws' (runName name) batch (s := s) (t := s) rfl
  rw [← hkept] at ht
  obtain ⟨hreport, hleft⟩ := ingest_of_fates hs
  obtain ⟨hreport', hleft'⟩ := ingest_of_fates ht
  refine ⟨by rw [hreport, hreport', hlists], by rw [hleft, hleft', hstore], fun hfaultless => ?_⟩
  have hnone : ∀ raw ∈ kept, skips answer raw = false := by
    intro raw hraw
    rw [hkept, List.mem_filter] at hraw
    simpa using hraw.2
  obtain ⟨hdirect, hall⟩ := store_fates h p retry draws' (runName name) kept hfaultless hnone
  rw [ht] at hdirect hall
  refine ⟨by rw [hleft, hstore, hdirect], fun hextracted => ?_⟩
  obtain rfl : r' = _ := hall hextracted
  rw [hreport, hlists]
  exact congrArg Except.ok (lists_outcome_recorded p (extracted answer kept))

/-- Answers that find the mentions of the memo in all texts but an unreadable one. -/
def reading (texts : List String) : Except Failure (List Recognition) :=
  if texts = ["?"] then .error (.fault { kind := .extraction, message := "unreadable" })
  else .ok [⟨0, History.memo.entities, none⟩]

/-- Recognition that gives these answers and notes that it was asked. -/
def reader : Recognizer := fun texts s =>
  (reading texts, { s with journal := s.journal ++ [.recognized texts] })

/-- A memo, a letter that cannot be read, and a note without texts. -/
def pile : List RawDocument :=
  [⟨"memo", ["Ada in Berlin"], []⟩, ⟨"letter", ["?"], []⟩, ⟨"note", [], []⟩]

/-- The pile without the letter. -/
def legible : List RawDocument := [⟨"memo", ["Ada in Berlin"], []⟩, ⟨"note", [], []⟩]

/-- What is extracted from it. -/
def filed : List Document := [⟨"memo", [], History.memo.entities⟩, ⟨"note", [], []⟩]

/-- The letter is skipped; memo and note are recorded as if they were the whole pile. -/
theorem ingest_without_skipped_of_pile :
    (ingest reader {} {} (fun _ _ => 0.25) pile none {}).2.store
      = (ingest reader {} {} (fun _ _ => 0.75) legible none {}).2.store ∧
    (ingest reader {} {} (fun _ _ => 0.25) pile none {}).2.store = (recordEach {} filed {}).store ∧
    (ingest reader {} {} (fun _ _ => 0.25) pile none {}).1.map lists
      = .ok (filed.map (recorded {}), []) := by
  have hsteady : Steady reader reading := ⟨fun _ _ => rfl, fun _ _ => rfl⟩
  have hkept : legible = pile.filter fun raw => !skips reading raw := by decide
  have hextracted : extracted reading legible = filed := rfl
  obtain ⟨-, hstore, hdirect⟩ :=
    ingest_without_skipped hsteady {} {} (fun _ _ => 0.25) (fun _ _ => 0.75) pile legible none {}
      hkept
  obtain ⟨hdirect, hall⟩ := hdirect (.of_eq_nil rfl)
  rw [hextracted] at hdirect hall
  refine ⟨hstore, hdirect, hall fun raw hraw => ?_⟩
  rcases List.mem_pair.mp hraw with rfl | rfl
  · exact ⟨_, rfl⟩
  · exact ⟨_, rfl⟩

end EntityGraph.Recording
