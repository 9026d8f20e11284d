import EntityGraph.Proofs.Recording.Confined
import EntityGraph.Proofs.Recording.Extraction
import EntityGraph.Proofs.Recording.Plan
import EntityGraph.Proofs.Recording.Retrying
/-!
What becomes of the documents of a batch.

* `Reliable`: recognition and recording may fail, but only in the ways that a batch provides for.
* `Judged`: what becomes of a document, told by the answers to the calls that are made for it.
  `Judged.congr` says that nothing else matters.
* `perm_outcome`: every document of a batch is listed once in the outcome.
* `ingestWith_accounts`: a batch comes to its end, and every document in it has the fate that the
  calls made for it decide.
-/

namespace EntityGraph

namespace Recording

open EntityGraph.Action

/-- Recognition fails only as extraction, recording fails only as the graph does and reports on the
document it was given, in all sessions of a kind that neither of them leaves. -/
structure Reliable (I : Session → Prop) (recognize : Recognizer) (recorder : Recorder) : Prop where
  /-- The kind does not depend on the context or on what is noted. -/
  frame : ∀ s context journal, I s → I { s with context, journal }
  recognition : ∀ texts s, I s → I (recognize texts s).2 ∧
    ∀ e, (recognize texts s).1 = .error e → isExtractionFailure e = true
  recording : ∀ d s, I s → I (recorder d s).2 ∧
    (∀ r, (recorder d s).1 = .ok r → r.document = d.id) ∧
    ∀ e, (recorder d s).1 = .error e → ∃ kind, e.kind? = some kind ∧ FaultKind.graph.covers kind

/-- Failures of the graph are worth another attempt, and the delays before the retries can be
computed, whatever is drawn. -/
structure Persistent (retry : RetryPolicy) : Prop where
  retries : ∀ e kind, e.kind? = some kind → FaultKind.graph.covers kind → retry.retries e = true
  delays : ∀ n < retry.maxRetries.toNat, ∀ draw,
    ∃ seconds, retry.backoff.delay draw (n : Nat) = .ok seconds

variable {I : Session → Prop} {recognize recognize' : Recognizer} {recorder recorder' : Recorder}
  {retry : RetryPolicy} {draws draws' : Nat → Float} {raw : RawDocument} {run : String}
  {s t t' u : Session} {d : Document} {e : Failure} {f f' : Fate} {fs : List Fate}

lemma Reliable.log (R : Reliable I recognize recorder) (hs : I s) (level : Log.Level)
    (logger message : String) : I (Action.log level logger message s).2 :=
  R.frame s s.context _ hs

lemma Reliable.extracts (R : Reliable I recognize recorder) (hd : Extracts recognize raw t d t')
    (ht : I t) : I t' := by
  cases hd with
  | unasked => exact ht
  | @asked results t₁ htexts hrun =>
      have hI := (R.recognition raw.texts t ht).1
      rw [hrun] at hI
      obtain ⟨journal, hcollect⟩ := collect_eq raw.id results t₁
      rw [hcollect]
      exact R.frame t₁ t₁.context journal hI

/-! ### Recording -/

/-- What comes of recording a document with at most `k` retries. -/
def recordTries (recorder : Recorder) (retry : RetryPolicy) (draws : Nat → Float) (d : Document)
    (k : Nat) : Action Recorded :=
  retry.tries draws ("record_document:" ++ d.id) (fun _ => recorder d) k 0

/-- In a session of the reliable kind, recording stays in this kind and fails only in ways that are
worth another attempt. -/
lemma recordTries_reliable (R : Reliable I recognize recorder) (P : Persistent retry)
    (d : Document) (k : Nat) (ht : I t) : I (recordTries recorder retry draws d k t).2 ∧
      (∀ r, (recordTries recorder retry draws d k t).1 = .ok r → r.document = d.id) ∧
      ∀ e, (recordTries recorder retry draws d k t).1 = .error e → retry.retries e = true := by
  have hattempt : ∀ j u, I u → I (RetryPolicy.tried ("record_document:" ++ d.id)
      (fun _ => recorder d) j u).2 ∧
      (∀ r, (RetryPolicy.tried ("record_document:" ++ d.id) (fun _ => recorder d) j u).1 = .ok r →
        r.document = d.id) ∧
      ∀ e, (RetryPolicy.tried ("record_document:" ++ d.id) (fun _ => recorder d) j u).1 = .error e →
        retry.retries e = true := fun j u hu => by
    obtain ⟨hI, hok, herror⟩ := R.recording d _ (R.frame u u.context
      (u.journal ++ [.attempted ("record_document:" ++ d.id)]) hu)
    refine ⟨hI, hok, fun e he => ?_⟩
    obtain ⟨kind, hkind, hcovers⟩ := herror e he
    exact P.retries e kind hkind hcovers
  have hpause : ∀ j e u, I u → I (retry.pause draws ("record_document:" ++ d.id) j e u) :=
    fun j e u hu => by
      obtain ⟨journal, hpause⟩ := retry.pause_eq draws ("record_document:" ++ d.id) j e u
      rw [hpause]
      exact R.frame u u.context journal hu
  induction k with
  | zero => exact hattempt 0 t ht
  | succ k ih =>
      cases hrun : recordTries recorder retry draws d k t with
      | mk result t₁ =>
          rw [hrun] at ih
          cases result with
          | ok r =>
              rw [recordTries, RetryPolicy.tries_succ_of_ok hrun]
              exact ih
          | error e =>
              rw [recordTries, RetryPolicy.tries_succ_of_error hrun]
              exact hattempt _ _ (hpause _ _ _ ih.1)

/-- **What becomes of a document**, told by the answers to the calls that are made for it in the
session of its turn: it is skipped if it has texts and recognition fails; it has failed if the first
attempt to record what was extracted and all retries fail; otherwise its report is that of the first
attempt that succeeds. -/
inductive Judged (recognize : Recognizer) (recorder : Recorder) (retry : RetryPolicy)
    (draws : Nat → Float) (raw : RawDocument) (t : Session) : Fate → Prop where
  | skipped {e : Failure} {t' : Session} (htexts : raw.texts ≠ [])
      (hrun : recognize raw.texts t = (.error e, t')) :
      Judged recognize recorder retry draws raw t (.skipped raw.id)
  | failed {d : Document} {t' : Session} (hd : Extracts recognize raw t d t')
      (hall : ∀ k ≤ retry.maxRetries.toNat,
        ∃ e, (recordTries recorder retry draws d k t').1 = .error e) :
      Judged recognize recorder retry draws raw t (.failed raw.id)
  | recorded {d : Document} {t' : Session} {k : Nat} {r : Recorded}
      (hd : Extracts recognize raw t d t') (hk : k ≤ retry.maxRetries.toNat)
      (hbefore : ∀ j < k, ∃ e, (recordTries recorder retry draws d j t').1 = .error e)
      (hok : (recordTries recorder retry draws d k t').1 = .ok r) :
      Judged recognize recorder retry draws raw t (.recorded r)

/-- The calls made for a document are answered alike in two sessions, perhaps by different services
and with other draws; all that matters of a failure is that it is one. -/
structure SameAnswers (retry : RetryPolicy) (raw : RawDocument)
    (recognize : Recognizer) (recorder : Recorder) (draws : Nat → Float) (t : Session)
    (recognize' : Recognizer) (recorder' : Recorder) (draws' : Nat → Float) (t' : Session) :
    Prop where
  recognition : raw.texts ≠ [] →
    (recognize raw.texts t).1.toOption = (recognize' raw.texts t').1.toOption
  recording : ∀ d u u', Extracts recognize raw t d u → Extracts recognize' raw t' d u' →
    ∀ k ≤ retry.maxRetries.toNat, (recordTries recorder retry draws d k u).1.toOption
      = (recordTries recorder' retry draws' d k u').1.toOption

lemma ok_of_toOption_eq {α ε : Type} {x y : Except ε α} {v : α} (h : x.toOption = y.toOption)
    (hx : x = .ok v) : y = .ok v := by
  rw [hx] at h
  cases y with
  | ok w => exact congrArg Except.ok (Option.some.inj h).symm
  | error e => exact absurd h (by simp [Except.toOption])

lemma error_of_toOption_eq {α ε : Type} {x y : Except ε α} (h : x.toOption = y.toOption)
    (hx : ∃ e, x = .error e) : ∃ e, y = .error e := by
  obtain ⟨e, rfl⟩ := hx
  cases y with
  | ok w => exact absurd h (by simp [Except.toOption])
  | error e' => exact ⟨e', rfl⟩

/-- **Nothing else matters**: when the calls made for a document are answered alike, the same becomes
of it, whatever batch it belongs to. -/
theorem Judged.congr
    (S : SameAnswers retry raw recognize recorder draws t recognize' recorder' draws' t')
    (h : Judged recognize recorder retry draws raw t f) :
    Judged recognize' recorder' retry draws' raw t' f := by
  have hextracts : ∀ {d u}, Extracts recognize raw t d u →
      ∃ u', Extracts recognize' raw t' d u' := by
    intro d u hd
    cases hd with
    | unasked htexts => exact ⟨t', .unasked htexts⟩
    | asked htexts hrun =>
        have hok := ok_of_toOption_eq (S.recognition htexts) (congrArg Prod.fst hrun)
        exact ⟨_, .asked htexts (Prod.ext hok rfl)⟩
  cases h with
  | skipped htexts hrun =>
      obtain ⟨e, he⟩ := error_of_toOption_eq (S.recognition htexts) ⟨_, congrArg Prod.fst hrun⟩
      exact .skipped htexts (Prod.ext he rfl)
  | failed hd hall =>
      obtain ⟨u', hd'⟩ := hextracts hd
      exact .failed hd' fun k hk => error_of_toOption_eq (S.recording _ _ _ hd hd' k hk) (hall k hk)
  | recorded hd hk hbefore hok =>
      obtain ⟨u', hd'⟩ := hextracts hd
      exact .recorded hd' hk
        (fun j hj => error_of_toOption_eq (S.recording _ _ _ hd hd' j (by omega)) (hbefore j hj))
        (ok_of_toOption_eq (S.recording _ _ _ hd hd' _ hk) hok)

/-! ### One document -/

/-- A document whose recognition fails is skipped. -/
lemma judged_iff_of_unrecognized (htexts : raw.texts ≠ [])
    (hrun : recognize raw.texts t = (.error e, u)) :
    Judged recognize recorder retry draws raw t f ↔ f = .skipped raw.id := by
  constructor
  · intro h
    cases h with
    | skipped => rfl
    | failed hd => exact absurd hrun (hd.not_error htexts)
    | recorded hd => exact absurd hrun (hd.not_error htexts)
  · rintro rfl
    exact .skipped htexts hrun

/-- A document that can be recorded is recorded. -/
lemma judged_iff_of_ok (hd : Extracts recognize raw t d t') {r : Recorded}
    (hlast : (recordTries recorder retry draws d retry.maxRetries.toNat t').1 = .ok r) :
    Judged recognize recorder retry draws raw t f ↔ f = .recorded r := by
  constructor
  · intro h
    cases h with
    | skipped htexts hrun => exact absurd hrun (hd.not_error htexts)
    | failed hd' hall =>
        obtain ⟨rfl, rfl⟩ := hd.unique hd'
        obtain ⟨e, he⟩ := hall _ (Nat.le_refl _)
        exact absurd (hlast.symm.trans he) (by simp)
    | recorded hd' hk hbefore hok =>
        obtain ⟨rfl, rfl⟩ := hd.unique hd'
        have hlast' := RetryPolicy.tries_ok_iff.mpr ⟨_, hk, hbefore, hok⟩
        rw [Except.ok.inj (hlast'.symm.trans hlast)]
  · rintro rfl
    obtain ⟨k, hk, hbefore, hok⟩ := RetryPolicy.tries_ok_iff.mp hlast
    exact .recorded hd hk hbefore hok

/-- A document that cannot be recorded has failed. -/
lemma judged_iff_of_exhausted (hd : Extracts recognize raw t d t')
    (hlast : (recordTries recorder retry draws d retry.maxRetries.toNat t').1 = .error e) :
    Judged recognize recorder retry draws raw t f ↔ f = .failed raw.id := by
  constructor
  · intro h
    cases h with
    | skipped htexts hrun => exact absurd hrun (hd.not_error htexts)
    | failed => rfl
    | recorded hd' hk hbefore hok =>
        obtain ⟨rfl, rfl⟩ := hd.unique hd'
        have hlast' := RetryPolicy.tries_ok_iff.mpr ⟨_, hk, hbefore, hok⟩
        exact absurd (hlast'.symm.trans hlast) (by simp)
  · rintro rfl
    exact .failed hd (RetryPolicy.tries_error_iff.mp ⟨e, hlast⟩)

/-- The id of the document that a fate is about. -/
def Fate.id : Fate → String
  | .recorded r => r.document
  | .skipped id => id
  | .failed id => id

/-- When the attempts are used up, this is logged. -/
lemma recordRetrying_of_exhausted {operation : String} {attempts : Nat}
    (h : retrying retry draws ("record_document:" ++ d.id) (fun _ => recorder d) t
      = (.error (.exhausted operation attempts e), u)) :
    ∃ message, recordRetrying recorder retry draws d t
      = (.ok (.failed d.id), (log .error batchLog message u).2) :=
  ⟨_, by simp only [recordRetrying, h]; rfl⟩

/-- Where no fault waits, a document is recorded at the first attempt. -/
lemma recordRetrying_of_faultless (p : Policy) (retry : RetryPolicy) (draws : Nat → Float)
    (d : Document) (ht : t.Faultless) : ∃ u,
      record p d { t with journal := t.journal ++ [.attempted ("record_document:" ++ d.id)] }
        = (.ok (recorded p d), u) ∧
      recordRetrying (record p) retry draws d t = (.ok (.recorded (recorded p d)), u) := by
  obtain ⟨u, hrun⟩ := (record_performs p d).succeeds
    (s := { t with journal := t.journal ++ [.attempted ("record_document:" ++ d.id)] }) ht
  have hfirst : RetryPolicy.tried ("record_document:" ++ d.id) (fun _ => record p d) 0 t
      = (.ok (recorded p d), u) := hrun
  have hall : retrying retry draws ("record_document:" ++ d.id) (fun _ => record p d) t
      = (.ok (recorded p d), u) := RetryPolicy.attempts_of_ok hfirst
  exact ⟨u, hrun, by simp only [recordRetrying, hall]⟩

/-- Recording what was extracted comes to an end, with the fate that the attempts decide. -/
lemma recordRetrying_spec (R : Reliable I recognize recorder) (P : Persistent retry)
    (hd : Extracts recognize raw t d t') (ht' : I t') :
    ∃ f u, recordRetrying recorder retry draws d t' = (.ok f, u) ∧ I u ∧ f.id = raw.id ∧
      ∀ f', Judged recognize recorder retry draws raw t f' ↔ f' = f := by
  have hrun : retrying retry draws ("record_document:" ++ d.id) (fun _ => recorder d) t'
      = RetryPolicy.exhaust ("record_document:" ++ d.id) (0 + retry.maxRetries.toNat + 1)
        (recordTries recorder retry draws d retry.maxRetries.toNat t') := by
    refine RetryPolicy.attempts_eq
      (fun j _ e he => (recordTries_reliable R P d j ht').2.2 e he) fun j hj => ?_
    rw [Nat.zero_add]
    exact P.delays j hj (draws j)
  obtain ⟨hI, hnamed, -⟩ := recordTries_reliable R P d retry.maxRetries.toNat ht'
  cases hlast : recordTries recorder retry draws d retry.maxRetries.toNat t' with
  | mk result u =>
      rw [hlast] at hI hnamed hrun
      have hresult := congrArg Prod.fst hlast
      cases result with
      | ok r =>
          refine ⟨.recorded r, u, ?_, hI, (hnamed r rfl).trans hd.id_eq,
            fun f' => judged_iff_of_ok hd hresult⟩
          rw [recordRetrying]
          simp only [hrun, RetryPolicy.exhaust]
      | error e =>
          obtain ⟨message, hlogged⟩ := recordRetrying_of_exhausted hrun
          rw [hd.id_eq] at hlogged
          exact ⟨.failed raw.id, _, hlogged, R.log hI _ _ _, rfl,
            fun f' => judged_iff_of_exhausted hd hresult⟩

/-- When extraction fails, this is logged. -/
lemma ingestOne_of_unrecognized (recorder : Recorder) (retry : RetryPolicy) (draws : Nat → Float)
    (h : extract recognize raw t = (.error e, u))
    (he : isExtractionFailure e = true) :
    ∃ message, ingestOne recognize recorder retry draws raw t
      = (.ok (.skipped raw.id), (log .error batchLog message u).2) :=
  ⟨_, by simp only [ingestOne, h, he, if_true]; rfl⟩

/-- A document comes to its end, with the fate that the calls made for it decide. -/
lemma ingestOne_spec (raw : RawDocument) (R : Reliable I recognize recorder)
    (P : Persistent retry) (draws : Nat → Float) (ht : I t) :
    ∃ f u, ingestOne recognize recorder retry draws raw t = (.ok f, u) ∧ I u ∧ f.id = raw.id ∧
      ∀ f', Judged recognize recorder retry draws raw t f' ↔ f' = f := by
  cases hextract : extract recognize raw t with
  | mk result t₁ =>
      cases result with
      | ok d =>
          have hd : Extracts recognize raw t d t₁ := extracts_iff.mpr hextract
          have hone : ingestOne recognize recorder retry draws raw t
              = recordRetrying recorder retry draws d t₁ := by
            simp only [ingestOne, hextract]
          rw [hone]
          exact recordRetrying_spec R P hd (R.extracts hd ht)
      | error e =>
          obtain ⟨htexts, e₁, hrun, rfl⟩ := exists_error_of_extract hextract
          obtain ⟨hI, hextraction⟩ := R.recognition raw.texts t ht
          rw [hrun] at hI hextraction
          obtain ⟨message, hlogged⟩ := ingestOne_of_unrecognized recorder retry draws hextract
            ((isExtractionFailure_concerning raw.id e₁).trans (hextraction e₁ rfl))
          exact ⟨.skipped raw.id, _, hlogged, R.log hI _ _ _, rfl,
            fun f' => judged_iff_of_unrecognized htexts hrun⟩

/-! ### A batch -/

/-- The session of the turn of a document: in its scope and in that of the run. -/
def turn (run id : String) (s : Session) : Session :=
  { s with context := (s.context.enter (some id) (some run)).1 }

lemma Reliable.turn (R : Reliable I recognize recorder) (hs : I s) (run id : String) :
    I (turn run id s) := R.frame s _ s.journal hs

/-- What is done in the turn of a document, seen from outside. -/
lemma within_of_turn {α : Type} {a : Action α} {id : String} {x : Except Failure α}
    (h : a (turn run id s) = (x, u)) : within id (some run) a s
      = (x, { u with context := (s.context.enter (some id) (some run)).2.leave u.context }) := by
  rw [turn] at h
  simp only [within, ensuring, h]

section

variable {draws : Nat → Nat → Float} {rest : List RawDocument}

/-- The first document of a batch comes to its end before the others begin. -/
lemma fates_cons_of_ok (h : within raw.id (some run)
    (ingestOne recognize recorder retry (draws 0) raw) s = (.ok f, u)) :
    fates recognize recorder retry draws run (raw :: rest) s
      = ((fates recognize recorder retry (fun n => draws (n + 1)) run rest u).1.map (f :: ·),
        (fates recognize recorder retry (fun n => draws (n + 1)) run rest u).2) := by
  rw [fates, bind_of_ok h]
  cases hrest : fates recognize recorder retry (fun n => draws (n + 1)) run rest u with
  | mk result u' =>
      cases result with
      | ok fs => rw [bind_of_ok hrest]; rfl
      | error e => rw [bind_of_error hrest]; rfl

/-- A batch is stopped by the first document that does not come to its end. -/
lemma fates_cons_of_error (h : within raw.id (some run)
    (ingestOne recognize recorder retry (draws 0) raw) s = (.error e, u)) :
    fates recognize recorder retry draws run (raw :: rest) s = (.error e, u) := by
  rw [fates, bind_of_error h]

end

/-- **A batch comes to its end**, with one fate for each document in it: the one that the calls made
for the document decide, in the session that the documents before it have left. -/
theorem fates_spec (R : Reliable I recognize recorder) (P : Persistent retry)
    (draws : Nat → Nat → Float) (run : String) (batch : List RawDocument) (hs : I s) :
    ∃ fs s', fates recognize recorder retry draws run batch s = (.ok fs, s') ∧ I s' ∧
      fs.map Fate.id = batch.map RawDocument.id ∧
      ∀ before raw after, batch = before ++ raw :: after → ∃ f, fs[before.length]? = some f ∧
        ∀ f', Judged recognize recorder retry (draws before.length) raw
          (turn run raw.id (fates recognize recorder retry draws run before s).2) f' ↔ f' = f := by
  induction batch generalizing s draws with
  | nil => exact ⟨[], s, rfl, hs, rfl, fun before raw after h => absurd h (by simp)⟩
  | cons raw rest ih =>
      obtain ⟨f, u, hone, hu, hid, hjudged⟩ :=
        ingestOne_spec raw R P (draws 0) (R.turn hs run raw.id)
      have hfirst := within_of_turn hone
      -- the other documents take the draws that follow
      obtain ⟨fs, s', hrest, hs', hids, hsplit⟩ := ih (fun n => draws (n + 1)) (R.frame u
        ((s.context.enter (some raw.id) (some run)).2.leave u.context) u.journal hu)
      refine ⟨f :: fs, s', ?_, hs', ?_, fun before raw' after heq => ?_⟩
      · rw [fates_cons_of_ok hfirst, hrest]
        rfl
      · rw [List.map_cons, List.map_cons, hid, hids]
      · cases before with
        | nil =>
            obtain ⟨rfl, rfl⟩ := List.cons.inj heq
            exact ⟨f, rfl, hjudged⟩
        | cons first before =>
            obtain ⟨rfl, rfl⟩ := List.cons.inj heq
            rw [fates_cons_of_ok hfirst]
            exact hsplit before raw' after rfl

/-- The ids that an outcome lists, those of the recorded documents first. -/
def listed (o : BatchOutcome) : List String :=
  o.recorded.map Recorded.document ++ o.skipped ++ o.failed

/-- **Every document is listed once**, and each of the three lists keeps the order of the batch. -/
theorem perm_outcome (fs : List Fate) :
    (listed (outcome fs)).Perm (fs.map Fate.id) ∧
    ((outcome fs).recorded.map Recorded.document).Sublist (fs.map Fate.id) ∧
    (outcome fs).skipped.Sublist (fs.map Fate.id) ∧
    (outcome fs).failed.Sublist (fs.map Fate.id) := by
  induction fs with
  | nil => exact ⟨.refl _, .refl _, .refl _, .refl _⟩
  | cons f fs ih =>
      obtain ⟨hperm, hrecorded, hskipped, hfailed⟩ := ih
      cases f with
      | recorded r =>
          exact ⟨hperm.cons r.document, hrecorded.cons_cons r.document, hskipped.cons _, hfailed.cons _⟩
      | skipped id =>
          refine ⟨?_, hrecorded.cons _, hskipped.cons_cons id, hfailed.cons _⟩
          have hmoved : (listed (outcome (.skipped id :: fs))).Perm (id :: listed (outcome fs)) := by
            simp only [listed, outcome, List.append_assoc]
            exact List.perm_middle
          exact hmoved.trans (hperm.cons id)
      | failed id =>
          refine ⟨?_, hrecorded.cons _, hskipped.cons _, hfailed.cons_cons id⟩
          exact List.perm_middle.trans (hperm.cons id)

/-- The outcome of a batch lists what has become of its documents. -/
lemma ingestWith_of_fates {draws : Nat → Nat → Float} {batch : List RawDocument}
    {name : Option String} {s' : Session}
    (h : fates recognize recorder retry draws (runName name) batch s = (.ok fs, s')) :
    ∃ s'', ingestWith recognize recorder retry draws batch name s = (.ok (outcome fs), s'') :=
  ⟨_, by rw [ingestWith, bind_of_ok h]; rfl⟩

/-- **Every document of a batch is accounted for.** Recognition and recording may fail in the ways
provided for. The batch comes to its end and lists every document once: the three lists keep the
order of the batch, and together they hold the ids of its documents, as often as they occur there.
The document at each place is skipped exactly if it has texts and its recognition fails; it has
failed exactly if the first attempt to record what was extracted and all retries fail; otherwise it
is recorded with the report of the first attempt that succeeds (`Judged`). The same becomes of a
document in any other session, by any other services, with any other draws and after any other
documents, provided that the calls made for it are answered alike. -/
theorem ingestWith_accounts (R : Reliable I recognize recorder) (P : Persistent retry)
    (draws : Nat → Nat → Float) (batch : List RawDocument) (name : Option String) (hs : I s) :
    ∃ fs s', ingestWith recognize recorder retry draws batch name s = (.ok (outcome fs), s') ∧
      fs.map Fate.id = batch.map RawDocument.id ∧
      (listed (outcome fs)).Perm (batch.map RawDocument.id) ∧
      ((outcome fs).recorded.map Recorded.document).Sublist (batch.map RawDocument.id) ∧
      (outcome fs).skipped.Sublist (batch.map RawDocument.id) ∧
      (outcome fs).failed.Sublist (batch.map RawDocument.id) ∧
      ∀ before raw after t, batch = before ++ raw :: after →
        t = turn (runName name) raw.id
          (fates recognize recorder retry draws (runName name) before s).2 →
        ∃ f, fs[before.length]? = some f ∧
          (∀ f', Judged recognize recorder retry (draws before.length) raw t f' ↔ f' = f) ∧
          ∀ recognize' recorder' draws' t', SameAnswers retry raw recognize recorder
            (draws before.length) t recognize' recorder' draws' t' →
            Judged recognize' recorder' retry draws' raw t' f := by
  obtain ⟨fs, s', hrun, -, hids, hsplit⟩ := fates_spec R P draws (runName name) batch hs
  obtain ⟨s'', hreturns⟩ := ingestWith_of_fates hrun
  obtain ⟨hperm, hrecorded, hskipped, hfailed⟩ := perm_outcome fs
  rw [hids] at hperm hrecorded hskipped hfailed
  refine ⟨fs, s'', hreturns, hids, hperm, hrecorded, hskipped, hfailed, ?_⟩
  rintro before raw after t heq rfl
  obtain ⟨f, hf, hjudged⟩ := hsplit before raw after heq
  exact ⟨f, hf, hjudged, fun _ _ _ _ S => ((hjudged f).mpr rfl).congr S⟩

/-! ### Scripted recognition -/

/-- All faults that wait are those of the graph, and all replies can be read or are refusals. -/
structure Behaved (s : Session) : Prop where
  faults : ∀ f, some f ∈ s.faults → FaultKind.graph.covers f.kind = true
  replies : ∀ r ∈ s.replies, ∀ e, Recognizer.readReply r = .error e → isExtractionFailure e = true

/-- Scripted recognition finds nothing, or it says what its next reply says. -/
lemma scripted_cases (texts : List String) (s : Session) :
    Recognizer.scripted texts s
      = (.ok [], { s with journal := s.journal ++ [.recognized texts] }) ∨
    ∃ r rest, s.replies = r :: rest ∧ Recognizer.scripted texts s = (Recognizer.readReply r,
      { s with replies := rest, journal := s.journal ++ [.recognized texts] }) := by
  obtain ⟨graph, clock, context, faults, replies, language, journal⟩ := s
  cases replies with
  | nil => exact .inl rfl
  | cons r rest =>
      have hread : ∀ (x : Except Failure (List Recognition)) (s : Session),
          Action.ofExcept x s = (x, s) := fun x s => by cases x <;> rfl
      exact .inr ⟨r, rest, rfl, hread _ _⟩

/-- **Scripted recognition and recording under a policy are reliable** in such sessions. -/
theorem reliable_scripted_record (p : Policy) :
    Reliable Behaved Recognizer.scripted (record p) where
  frame s context journal hs := ⟨hs.faults, hs.replies⟩
  recognition texts s hs := by
    rcases scripted_cases texts s with hrun | ⟨r, rest, hreplies, hrun⟩
    · rw [hrun]
      exact ⟨⟨hs.faults, hs.replies⟩, fun e he => absurd he (by simp)⟩
    · have hread := hs.replies r (by rw [hreplies]; exact List.mem_cons_self)
      have hrest : ∀ r' ∈ rest, ∀ e, Recognizer.readReply r' = .error e →
          isExtractionFailure e = true := fun r' hr' =>
        hs.replies r' (by rw [hreplies]; exact List.mem_cons_of_mem r hr')
      rw [hrun]
      exact ⟨⟨hs.faults, hrest⟩, hread⟩
  recording d s hs := by
    have hspares := (record_confined p d).spares s
    refine ⟨⟨fun f hf => hs.faults f (hspares.faults hf), ?_⟩, fun r hr => ?_, fun e he => ?_⟩
    · rw [hspares.replies]
      exact hs.replies
    · rw [((record_performs p d).of_ok (Prod.ext hr rfl)).1]
      rfl
    · obtain ⟨f, hf, rfl⟩ := (record_confined p d).fails he
      exact ⟨f.kind, rfl, hs.faults f hf⟩

/-- Three documents, the last of which has the id of the first and no texts. -/
def threeDocuments : List RawDocument :=
  [⟨"memo", ["Ada"], []⟩, ⟨"letter", ["Berlin"], []⟩, ⟨"memo", [], []⟩]

/-- A session in which the first recognition is refused and the first write is struck. -/
def refusedAndStruck : Session where
  faults := [some { kind := .graph, message := "graph write failed" }]
  replies := [.refused { kind := .extraction, message := "service unavailable" }, .results []]

/-- One retry. -/
def oneRetry : RetryPolicy where
  maxRetries := 1

lemma persistent_oneRetry : Persistent oneRetry where
  retries e kind hkind hcovers := by
    simp [oneRetry, Failure.isOf, hkind, hcovers]
  delays n hn draw := by
    obtain rfl : n = 0 := Nat.lt_one_iff.mp hn
    exact ⟨_, Backoff.delay_of_steady draw (by decide +kernel) (.inl rfl)⟩

/-- When no fault is left after the first attempt, the second one succeeds. -/
lemma recordTries_one_of_faultless {p : Policy}
    (h : recordTries (record p) retry draws d 0 t = (.error e, u)) (hu : u.Faultless) :
    (recordTries (record p) retry draws d 1 t).1 = .ok (recorded p d) := by
  obtain ⟨journal, hpause⟩ := retry.pause_eq draws ("record_document:" ++ d.id) 0 e u
  let noted : Session := { u with journal := journal ++ [.attempted ("record_document:" ++ d.id)] }
  obtain ⟨u', hrun⟩ := (record_performs p d).succeeds (s := noted) hu
  rw [recordTries, RetryPolicy.tries_succ_of_error h, Nat.zero_add, hpause]
  exact congrArg Prod.fst hrun

/-- The first of the three documents is skipped, and the letter is recorded at its second
attempt. -/
theorem ingestWith_accounts_of_threeDocuments :
    ∃ fs s', ingestWith Recognizer.scripted (record {}) oneRetry (fun _ _ => 0.5) threeDocuments none
        refusedAndStruck = (.ok (outcome fs), s') ∧
      (listed (outcome fs)).Perm ["memo", "letter", "memo"] ∧ fs[0]? = some (.skipped "memo") ∧
      fs[1]? = some (.recorded (recorded {} ⟨"letter", [], []⟩)) := by
  have hbehaved : Behaved refusedAndStruck := by
    refine ⟨fun f hf => ?_, fun r hr e he => ?_⟩
    · obtain rfl := Option.some.inj (List.mem_singleton.mp hf)
      rfl
    · rcases List.mem_pair.mp hr with rfl | rfl
      · obtain rfl := Except.error.inj he
        rfl
      · exact absurd he (by simp [Recognizer.readReply, pure, Except.pure])
  obtain ⟨fs, s', hrun, -, hperm, -, -, -, hsplit⟩ := ingestWith_accounts
    (reliable_scripted_record {}) persistent_oneRetry (fun _ _ => 0.5) threeDocuments none hbehaved
  obtain ⟨f, hf, hjudged, -⟩ := hsplit [] ⟨"memo", ["Ada"], []⟩ _ _ rfl rfl
  have hskipped := (hjudged (.skipped "memo")).mp (.skipped (by simp) rfl)
  obtain ⟨f', hf', hjudged', -⟩ :=
    hsplit [⟨"memo", ["Ada"], []⟩] ⟨"letter", ["Berlin"], []⟩ [⟨"memo", [], []⟩] _ rfl rfl
  have hrecorded := (hjudged' (.recorded (recorded {} ⟨"letter", [], []⟩))).mp <| by
    refine .recorded (.asked (by simp) rfl) (Nat.le_refl 1) (fun j hj => ?_)
      (recordTries_one_of_faultless rfl (.of_eq_nil rfl))
    obtain rfl := Nat.lt_one_iff.mp hj
    exact ⟨_, rfl⟩
  exact ⟨fs, s', hrun, hperm, hskipped ▸ hf, hrecorded ▸ hf'⟩

end Recording

end EntityGraph
