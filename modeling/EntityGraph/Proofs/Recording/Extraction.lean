import EntityGraph.Proofs.Recording.Performs
import EntityGraph.Recording.Batch
/-!
The document that recognition makes of a raw one.

* `gathered`: the entities of the results that are no errors. `collect_eq` says that these are
  collected.
* `Extracts`: the document extracted from a raw one, told by the answer of recognition.
  `extracts_iff` says that this is what is extracted, and `exists_error_of_extract` that extraction
  fails only when recognition does.
-/

namespace EntityGraph.Recording

open EntityGraph.Action

variable {recognize : Recognizer} {raw : RawDocument} {t t' u : Session} {d : Document} {e : Failure}

/-- The entities of the results that are no errors, in order. -/
def gathered (results : List Recognition) : List Entity :=
  (results.filter fun r => !r.isError).flatMap Recognition.entities

lemma collect_eq (document : String) (results : List Recognition) (s : Session) :
    ∃ journal, collect document results s = (.ok (gathered results), { s with journal }) := by
  induction results generalizing s with
  | nil => exact ⟨s.journal, rfl⟩
  | cons r rest ih =>
      cases h : r.error with
      | some e =>
          have hgathered : gathered (r :: rest) = gathered rest := by
            simp [gathered, Recognition.isError, h]
          obtain ⟨journal, hrest⟩ := ih (log .warning batchLog ("Text " ++ toString r.index
            ++ " of document " ++ document ++ " skipped: " ++ e) s).2
          refine ⟨journal, ?_⟩
          rw [hgathered, collect, h]
          exact hrest
      | none =>
          have hgathered : gathered (r :: rest) = r.entities ++ gathered rest := by
            simp [gathered, Recognition.isError, h]
          obtain ⟨journal, hrest⟩ := ih s
          refine ⟨journal, ?_⟩
          rw [hgathered, collect, h]
          show (collect document rest >>= fun es => pure (r.entities ++ es)) s = _
          rw [bind_of_ok hrest]
          rfl

/-- The document that recognition makes of a raw one, and the session afterwards. Without texts,
recognition is not asked. -/
inductive Extracts (recognize : Recognizer) (raw : RawDocument) (t : Session) :
    Document → Session → Prop where
  | unasked (htexts : raw.texts = []) : Extracts recognize raw t ⟨raw.id, raw.metadata, []⟩ t
  | asked {results : List Recognition} {t₁ : Session} (htexts : raw.texts ≠ [])
      (hrun : recognize raw.texts t = (.ok results, t₁)) :
      Extracts recognize raw t ⟨raw.id, raw.metadata, gathered results⟩ (collect raw.id results t₁).2

lemma Extracts.id_eq (h : Extracts recognize raw t d t') : d.id = raw.id := by
  cases h <;> rfl

/-- When recognition fails, so does extraction. -/
lemma extract_of_error {t₁ : Session} (htexts : raw.texts ≠ [])
    (h : recognize raw.texts t = (.error e, t₁)) :
    extract recognize raw t = (.error (concerning raw.id e), t₁) := by
  rw [extract, if_neg (by simpa using htexts)]
  simp only [h]

/-- When recognition succeeds, so does extraction. -/
lemma extract_of_ok {results : List Recognition} {t₁ : Session} (htexts : raw.texts ≠ [])
    (h : recognize raw.texts t = (.ok results, t₁)) : extract recognize raw t
      = (.ok ⟨raw.id, raw.metadata, gathered results⟩, (collect raw.id results t₁).2) := by
  obtain ⟨journal, hcollect⟩ := collect_eq raw.id results t₁
  rw [extract, if_neg (by simpa using htexts)]
  simp only [h]
  rw [bind_of_ok hcollect, hcollect]
  rfl

/-- Extraction fails only when recognition does. -/
lemma exists_error_of_extract (h : extract recognize raw t = (.error e, t')) :
    raw.texts ≠ [] ∧ ∃ e₁, recognize raw.texts t = (.error e₁, t') ∧ e = concerning raw.id e₁ := by
  by_cases htexts : raw.texts = []
  · rw [extract, if_pos (by simpa using htexts)] at h
    have hresult : (.ok ⟨raw.id, raw.metadata, []⟩ : Except Failure Document) = .error e :=
      congrArg Prod.fst h
    exact absurd hresult (by simp)
  · cases hrun : recognize raw.texts t with
    | mk result t₁ =>
        cases result with
        | error e₁ =>
            rw [extract_of_error htexts hrun] at h
            obtain ⟨he, rfl⟩ := Prod.mk.inj h
            exact ⟨htexts, e₁, rfl, (Except.error.inj he).symm⟩
        | ok results =>
            rw [extract_of_ok htexts hrun] at h
            exact absurd (congrArg Prod.fst h) (by simp)

/-- To say which document a failure concerns does not change its kind. -/
lemma isExtractionFailure_concerning (document : String) (e : Failure) :
    isExtractionFailure (concerning document e) = isExtractionFailure e := by
  cases e with
  | fault f =>
      by_cases hkind : f.kind = .extraction <;> simp [concerning, isExtractionFailure, hkind]
  | _ => rfl

/-- **What is extracted** is what recognition makes of the raw document. -/
theorem extracts_iff : Extracts recognize raw t d t' ↔ extract recognize raw t = (.ok d, t') := by
  constructor
  · intro h
    cases h with
    | unasked htexts =>
        rw [extract, if_pos (by simpa using htexts)]
        rfl
    | asked htexts hrun => exact extract_of_ok htexts hrun
  · intro h
    by_cases htexts : raw.texts = []
    · rw [extract, if_pos (by simpa using htexts)] at h
      obtain ⟨hd, rfl⟩ := Prod.mk.inj h
      rw [← Except.ok.inj hd]
      exact .unasked htexts
    · cases hrun : recognize raw.texts t with
      | mk result t₁ =>
          cases result with
          | error e₁ =>
              rw [extract_of_error htexts hrun] at h
              exact absurd (congrArg Prod.fst h) (by simp)
          | ok results =>
              rw [extract_of_ok htexts hrun] at h
              obtain ⟨hd, rfl⟩ := Prod.mk.inj h
              rw [← Except.ok.inj hd]
              exact .asked htexts hrun

lemma Extracts.unique (h : Extracts recognize raw t d t') {d' : Document}
    (h' : Extracts recognize raw t d' u) : d' = d ∧ u = t' := by
  have heq := (extracts_iff.mp h').symm.trans (extracts_iff.mp h)
  exact ⟨Except.ok.inj (congrArg Prod.fst heq), congrArg Prod.snd heq⟩

lemma Extracts.not_error (h : Extracts recognize raw t d t') (htexts : raw.texts ≠ []) :
    recognize raw.texts t ≠ (.error e, u) := fun hrun => by
  have heq := (extracts_iff.mp h).symm.trans (extract_of_error htexts hrun)
  exact absurd (congrArg Prod.fst heq) (by simp)

end EntityGraph.Recording
