import EntityGraph.Proofs.Recording.Performs
import EntityGraph.Recording.Document
/-!
The writes of a document, as a list.

* `firstMentions`: the confident mentions of a document, one for each entity.
* `writes`: the vertex of the document, then the vertex and the appearance of each entity, then the
  relationships of the pairs.
* `writeDocument_eq`, `writeEntity_eq`, `writeRelationship_cases`: each part of a recording as a
  write with the log records around it.
* `record_performs`: recording a document performs these writes and reports `recorded`.
* `record_made`: a run that fails has made some of them, that of the document before all others.
-/

namespace EntityGraph.Recording

open EntityGraph.Action

/-- The mentions of a document that are recorded: of the confident ones, the first of each
entity. -/
def firstMentions (p : Policy) (d : Document) : List Entity :=
  Entity.distinct (Entity.confident p.threshold d.entities)

/-- The write of the vertex of a document. -/
def documentWrite (d : Document) : Write :=
  .vertex d.id documentLabel (documentProperties d.metadata.toFields)

/-- The write of the vertex of an entity. -/
def entityWrite (e : Entity) : Write := .vertex e.id entityLabel (entityProperties e)

/-- The write of the edge from an entity to a document. -/
def appearanceWrite (document : String) (e : Entity) : Write :=
  .edge Relationship.appearsIn e.id document (appearanceProperties e)

/-- The write of the relationship of two entities, unless they are one or merely occur together and
such relationships are not wanted. -/
def relationshipWrites (persistGeneric : Bool) (document : String) (a b : Entity) : List Write :=
  let r := Relationship.resolve a.toMention b.toMention
  if a.id = b.id ∨ (r.isGeneric && !persistGeneric) = true then []
  else [.edge r.label r.source.id r.target.id (relationshipProperties document)]

/-- All writes of a document. -/
def writes (p : Policy) (d : Document) : List Write :=
  documentWrite d ::
    ((firstMentions p d).flatMap (fun e => [entityWrite e, appearanceWrite d.id e])
      ++ (Entity.pairs (firstMentions p d)).flatMap
          fun (a, b) => relationshipWrites p.persistGeneric d.id a b)

/-- What recording a document reports. -/
def recorded (p : Policy) (d : Document) : Recorded :=
  ⟨d.id, Entity.confident p.threshold d.entities, (Entity.pairs (firstMentions p d)).length⟩

/-! ### The parts of a recording, as writes and log records -/

lemma writeNow_bind {β : Type} (w : Write) (rest : Action β) :
    (writeNow w >>= fun _ => rest) = (do
      let time ← now
      discard <| execute (w.traversal time)
      rest) :=
  bind_assoc _ _ _

lemma writeDocument_eq (d : Document) : writeDocument d.id d.metadata.toFields
    = (warnReserved d.id d.metadata.toFields >>= fun _ => writeNow (documentWrite d) >>= fun _ =>
      log .debug writerLog ("Upserted document " ++ d.id)) := by
  rw [writeNow_bind]
  rfl

lemma writeEntity_eq (e : Entity) : writeEntity e
    = (writeNow (entityWrite e) >>= fun _ =>
      log .debug writerLog ("Upserted entity " ++ Text.quoted e.text ++ " as " ++ e.id)
        >>= fun _ => pure e.id) := by
  rw [writeNow_bind]
  rfl

/-- A pair is skipped, with or without a word, or its relationship is written. -/
lemma writeRelationship_cases (persistGeneric : Bool) (a b : Entity) (document : String) :
    (relationshipWrites persistGeneric document a b = [] ∧
      (writeRelationship persistGeneric a b document = pure none ∨
        ∃ message, writeRelationship persistGeneric a b document
          = (log .debug relationshipLog message >>= fun _ => pure none))) ∨
    ∃ w message r, relationshipWrites persistGeneric document a b = [w] ∧
      writeRelationship persistGeneric a b document
        = (writeNow w >>= fun _ => log .debug relationshipLog message >>= fun _ =>
          pure (some r)) := by
  let r := Relationship.resolve a.toMention b.toMention
  by_cases hid : a.id = b.id
  · refine .inl ⟨by rw [relationshipWrites, if_pos (.inl hid)], .inl ?_⟩
    rw [writeRelationship, if_pos hid]
  by_cases hgeneric : (r.isGeneric && !persistGeneric) = true
  · refine .inl ⟨by rw [relationshipWrites, if_pos (Or.inr hgeneric)], .inr
      ⟨"Skipping co_occurs between " ++ Text.quoted a.text ++ " and " ++ Text.quoted b.text, ?_⟩⟩
    rw [writeRelationship, if_neg hid]
    exact if_pos hgeneric
  · refine .inr ⟨.edge r.label r.source.id r.target.id (relationshipProperties document),
      "Upserted " ++ r.label ++ ": " ++ Text.quoted r.source.text ++ " -> "
        ++ Text.quoted r.target.text, r, ?_, ?_⟩
    · rw [relationshipWrites, if_neg (not_or.mpr ⟨hid, hgeneric⟩)]
    · rw [writeRelationship, if_neg hid, writeNow_bind]
      exact if_neg hgeneric

/-! ### The writes that are performed -/

/-- Warnings change the journal and nothing else. -/
lemma warnReserved_frame (document : String) (metadata : Fields) (s : Session) :
    ∃ s', warnReserved document metadata s = (.ok (), s') ∧ s'.graph = s.graph ∧
      s'.clock = s.clock ∧ s'.faults = s.faults := by
  induction metadata generalizing s with
  | nil => exact ⟨s, rfl, rfl, rfl, rfl⟩
  | cons field rest ih =>
      obtain ⟨k, v⟩ := field
      rw [warnReserved]
      split
      · exact ih (log .warning writerLog ("Ignoring reserved metadata key " ++ Text.quoted k
          ++ " on document " ++ document) s).2
      · exact ih s

lemma performs_warnReserved (document : String) (metadata : Fields) :
    (warnReserved document metadata).Performs [] () :=
  performs_of_frame (warnReserved_frame document metadata)

lemma performs_writeDocument (d : Document) :
    (writeDocument d.id d.metadata.toFields).Performs [documentWrite d] () := by
  rw [writeDocument_eq]
  exact (performs_warnReserved _ _).bind (f := fun _ => _)
    ((performs_writeNow (documentWrite d)).bind (f := fun _ => _) (performs_log _ _ _))

/-- The vertex of a document is not written, or it is written at the time that the clock shows. -/
lemma writeDocument_cases (d : Document) (s : Session) :
    (∃ e s', writeDocument d.id d.metadata.toFields s = (.error e, s') ∧ s'.graph = s.graph) ∨
    ∃ s', writeDocument d.id d.metadata.toFields s = (.ok (), s') ∧
      s'.graph = s.graph.write (documentWrite d) s.clock.text := by
  obtain ⟨s₁, hwarn, hgraph₁, hclock₁, -⟩ := warnReserved_frame d.id d.metadata.toFields s
  rw [writeDocument_eq, bind_of_ok hwarn, ← hgraph₁, ← hclock₁]
  obtain ⟨f, s₂, hwrite, -, hgraph⟩ | ⟨s₂, hwrite, hgraph, -, -⟩ :=
    writeNow_cases (documentWrite d) s₁
  · exact .inl ⟨.fault f, s₂, bind_of_error hwrite, hgraph⟩
  · exact .inr ⟨(log .debug writerLog ("Upserted document " ++ d.id) s₂).2,
      bind_of_ok hwrite, hgraph⟩

lemma performs_writeMention (document : String) (e : Entity) :
    (writeMention document e).Performs [entityWrite e, appearanceWrite document e] () := by
  have hentity : (writeEntity e).Performs [entityWrite e] e.id := by
    rw [writeEntity_eq]
    exact (performs_writeNow (entityWrite e)).bind (f := fun _ => _)
      ((performs_log _ _ _).bind (f := fun _ => _) (performs_pure e.id))
  exact hentity.bind (performs_writeNow (appearanceWrite document e))

lemma performs_writeRelationship (persistGeneric : Bool) (a b : Entity) (document : String) :
    ∃ r, (writeRelationship persistGeneric a b document).Performs
      (relationshipWrites persistGeneric document a b) r := by
  obtain ⟨hnone, h | ⟨message, h⟩⟩ | ⟨w, message, r, hone, h⟩ :=
    writeRelationship_cases persistGeneric a b document
  · rw [hnone, h]
    exact ⟨none, performs_pure none⟩
  · rw [hnone, h]
    exact ⟨none, (performs_log _ _ _).bind (f := fun _ => _) (performs_pure none)⟩
  · rw [hone, h]
    exact ⟨some r, (performs_writeNow w).bind (f := fun _ => _)
      ((performs_log _ _ _).bind (f := fun _ => _) (performs_pure (some r)))⟩

/-- The writes of a document after that of its vertex. -/
def laterWrites (p : Policy) (d : Document) : List Write := (writes p d).tail

lemma writes_eq_cons (p : Policy) (d : Document) :
    writes p d = documentWrite d :: laterWrites p d := rfl

/-- What recording a document does after the vertex of the document has been written. -/
def recordEntities (p : Policy) (d : Document) : Action Recorded := do
  settle ((firstMentions p d).map (writeMention d.id))
  settle ((Entity.pairs (firstMentions p d)).map fun (a, b) =>
    discard (writeRelationship p.persistGeneric a b d.id))
  log .info recorderLog (summary d (Entity.confident p.threshold d.entities).length
    (Entity.pairs (firstMentions p d)).length)
  return recorded p d

lemma recordAll_eq_bind (p : Policy) (d : Document) :
    recordAll p d = writeDocument d.id d.metadata.toFields >>= fun _ => recordEntities p d := rfl

lemma performs_recordEntities (p : Policy) (d : Document) :
    (recordEntities p d).Performs (laterWrites p d) (recorded p d) := by
  have hmentions : (settle ((firstMentions p d).map (writeMention d.id))).Performs
      ((firstMentions p d).flatMap fun e => [entityWrite e, appearanceWrite d.id e]) () :=
    performs_settle fun e _ => performs_writeMention d.id e
  have hpairs : (settle ((Entity.pairs (firstMentions p d)).map fun (a, b) =>
      discard (writeRelationship p.persistGeneric a b d.id))).Performs
      ((Entity.pairs (firstMentions p d)).flatMap fun (a, b) =>
        relationshipWrites p.persistGeneric d.id a b) () := by
    refine performs_settle fun (a, b) _ => ?_
    obtain ⟨r, h⟩ := performs_writeRelationship p.persistGeneric a b d.id
    exact h.discard
  have hsummary := (performs_log .info recorderLog (summary d
    (Entity.confident p.threshold d.entities).length
    (Entity.pairs (firstMentions p d)).length)).bind (f := fun _ => _)
      (performs_pure (recorded p d))
  have h := hmentions.bind (f := fun _ => _) (hpairs.bind (f := fun _ => _) hsummary)
  simp only [List.append_nil] at h
  exact h

/-- **Recording a document performs its writes** and reports what was recorded. -/
theorem record_performs (p : Policy) (d : Document) :
    (record p d).Performs (writes p d) (recorded p d) := by
  have h := (performs_writeDocument d).bind (f := fun _ => _) (performs_recordEntities p d)
  rw [← recordAll_eq_bind] at h
  exact (h.during "record_document").within d.id none

/-- **The vertex of the document comes first**: a run that fails has made this write, at the time
that the clock shows, before all others, or it has made none. -/
theorem record_made (p : Policy) (d : Document) (s : Session) :
    (record p d s).2.graph = s.graph ∨ ∃ ops, (ops.map Prod.fst).Sublist (laterWrites p d) ∧
      (record p d s).2.graph = s.graph.writeAll ((documentWrite d, s.clock.text) :: ops) := by
  let inside : Session := setOperation (some "record_document")
    { s with context := (s.context.enter (some d.id) none).1 }
  show (recordAll p d inside).2.graph = _ ∨ ∃ ops, _ ∧ (recordAll p d inside).2.graph = _
  rw [recordAll_eq_bind]
  obtain ⟨e, s', hwrite, hgraph⟩ | ⟨s', hwrite, hgraph⟩ := writeDocument_cases d inside
  · exact .inl (by rw [bind_of_error hwrite]; exact hgraph)
  · obtain ⟨ops, hsub, hmade⟩ := (performs_recordEntities p d).made s'
    exact .inr ⟨ops, hsub, by rw [bind_of_ok hwrite, hmade, hgraph]; rfl⟩

end EntityGraph.Recording
