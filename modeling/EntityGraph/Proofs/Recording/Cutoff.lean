import EntityGraph.Proofs.Recording.Keys
import EntityGraph.Proofs.Recording.Struck
/-!
Where a recording that fails is cut off.

* `MentionCourse`: the vertex of an entity is attempted, and its appearance if the vertex has been
  written.
* `Course`: the three ways in which a recording can go. The vertex of the document is not written,
  and nothing else is attempted; or some entity is not written, and all of them have been attempted
  but no relationship; or everything has been attempted.
* `runs_record`: recording a document goes in one of these ways, whatever the faults are.
* `Course.grounded`: whatever is written of the edges is written after its end points.
* `record_cutoff`: the attempts, what is there of them afterwards, and what is reported.
-/

namespace EntityGraph.Recording

open EntityGraph.Action

variable {p : Policy} {d : Document} {s : Session}

/-- What is attempted for one mention. -/
inductive MentionCourse (document : String) (e : Entity) : List Attempt → Prop
  | struck (time : String) (f : Fault) :
      MentionCourse document e [⟨entityWrite e, time, some f⟩]
  | written (time time' : String) (fault? : Option Fault) :
      MentionCourse document e
        [⟨entityWrite e, time, none⟩, ⟨appearanceWrite document e, time', fault?⟩]

/-- What is attempted for a document, in this order. -/
inductive Course (p : Policy) (d : Document) : List Attempt → Prop
  /-- The vertex of the document is not written. -/
  | refused (time : String) (f : Fault) : Course p d [⟨documentWrite d, time, some f⟩]
  /-- The mentions are gone through to the end, but not all is written. -/
  | stopped (time : String) (mentions : List (List Attempt)) {f : Fault} :
      List.Forall₂ (MentionCourse d.id) (firstMentions p d) mentions →
      firstFault? mentions.flatten = some f →
      Course p d (⟨documentWrite d, time, none⟩ :: mentions.flatten)
  /-- All mentions are written, and the pairs are gone through to the end. -/
  | finished (time : String) (mentions : List (List Attempt)) (pairs : List Attempt) :
      List.Forall₂ (MentionCourse d.id) (firstMentions p d) mentions →
      firstFault? mentions.flatten = none →
      pairs.map Attempt.write = (Entity.pairs (firstMentions p d)).flatMap
        (fun (a, b) => relationshipWrites p.persistGeneric d.id a b) →
      Course p d (⟨documentWrite d, time, none⟩ :: (mentions.flatten ++ pairs))

/-! ### The parts of a recording -/

lemma runs_warnReserved (document : String) (metadata : Fields) (s : Session) :
    (warnReserved document metadata).Runs s [] () := by
  induction metadata generalizing s with
  | nil => exact runs_pure () s
  | cons field rest ih =>
      obtain ⟨k, v⟩ := field
      rw [warnReserved]
      split
      · exact (runs_log _ _ _ s).bind_silent fun s' => ih s'
      · exact (runs_pure () s).bind_silent (f := fun _ => warnReserved document rest)
          fun s' => ih s'

lemma runs_writeDocument (d : Document) (s : Session) : ∃ time fault?,
    (writeDocument d.id d.metadata.toFields).Runs s [⟨documentWrite d, time, fault?⟩] () := by
  have hwarn := runs_warnReserved d.id d.metadata.toFields s
  obtain ⟨time, fault?, hwrite⟩ :=
    runs_writeNow (documentWrite d) (warnReserved d.id d.metadata.toFields s).2
  rw [writeDocument_eq]
  exact ⟨time, fault?, hwarn.bind_of_made rfl (hwrite.bind_silent fun s' => runs_log _ _ _ s')⟩

lemma runs_writeEntity (e : Entity) (s : Session) : ∃ time fault?,
    (writeEntity e).Runs s [⟨entityWrite e, time, fault?⟩] e.id := by
  obtain ⟨time, fault?, hwrite⟩ := runs_writeNow (entityWrite e) s
  rw [writeEntity_eq]
  exact ⟨time, fault?, hwrite.bind_silent fun s' =>
    (runs_log _ _ _ s').bind_silent fun s'' => runs_pure e.id s''⟩

lemma runs_writeMention (document : String) (e : Entity) (s : Session) :
    ∃ as, MentionCourse document e as ∧ (writeMention document e).Runs s as () := by
  obtain ⟨time, fault?, hentity⟩ := runs_writeEntity e s
  cases fault? with
  | some f => exact ⟨_, .struck time f, hentity.bind_of_struck rfl ()⟩
  | none =>
      obtain ⟨time', fault?, happearance⟩ :=
        runs_writeNow (appearanceWrite document e) (writeEntity e s).2
      exact ⟨_, .written time time' fault?, hentity.bind_of_made rfl happearance⟩

lemma runs_writeRelationship (persistGeneric : Bool) (a b : Entity) (document : String)
    (s : Session) :
    ∃ as, as.map Attempt.write = relationshipWrites persistGeneric document a b ∧
      (discard (writeRelationship persistGeneric a b document) : Action Unit).Runs s as () := by
  obtain ⟨hnone, h | ⟨message, h⟩⟩ | ⟨w, message, r, hone, h⟩ :=
    writeRelationship_cases persistGeneric a b document
  · rw [hnone, h]
    exact ⟨[], rfl, (runs_pure none s).discard⟩
  · rw [hnone, h]
    exact ⟨[], rfl, Runs.discard ((runs_log _ _ _ s).bind_silent fun s' => runs_pure none s')⟩
  · rw [hone, h]
    obtain ⟨time, fault?, hwrite⟩ := runs_writeNow w s
    exact ⟨[⟨w, time, fault?⟩], rfl, Runs.discard (hwrite.bind_silent fun s' =>
      (runs_log _ _ _ s').bind_silent fun s'' => runs_pure (some r) s'')⟩

/-- All mentions are gone through. -/
lemma runs_mentions (document : String) (es : List Entity) (s : Session) :
    ∃ mentions, List.Forall₂ (MentionCourse document) es mentions ∧
      (settle (es.map (writeMention document))).Runs s mentions.flatten () := by
  induction es generalizing s with
  | nil => exact ⟨[], .nil, runs_pure () s⟩
  | cons e es ih =>
      obtain ⟨as, hcourse, hrun⟩ := runs_writeMention document e s
      obtain ⟨mentions, hcourses, hruns⟩ := ih (writeMention document e s).2
      exact ⟨as :: mentions, .cons hcourse hcourses, hrun.settle_cons hruns⟩

/-- All pairs are gone through. -/
lemma runs_pairs (persistGeneric : Bool) (document : String) (pairs : List (Entity × Entity))
    (s : Session) :
    ∃ as, as.map Attempt.write
        = pairs.flatMap (fun (a, b) => relationshipWrites persistGeneric document a b) ∧
      (settle (pairs.map fun (a, b) =>
        discard (writeRelationship persistGeneric a b document))).Runs s as () := by
  induction pairs generalizing s with
  | nil => exact ⟨[], rfl, runs_pure () s⟩
  | cons pair pairs ih =>
      obtain ⟨a, b⟩ := pair
      obtain ⟨as, hwrites, hrun⟩ := runs_writeRelationship persistGeneric a b document s
      obtain ⟨more, hmore, hruns⟩ :=
        ih ((discard (writeRelationship persistGeneric a b document) : Action Unit) s).2
      refine ⟨as ++ more, ?_, hrun.settle_cons hruns⟩
      rw [List.map_append, hwrites, hmore, List.flatMap_cons]

lemma runs_recordAll (p : Policy) (d : Document) (s : Session) :
    ∃ as, Course p d as ∧ (recordAll p d).Runs s as (recorded p d) := by
  obtain ⟨time, fault?, hdocument⟩ := runs_writeDocument d s
  rw [recordAll_eq_bind]
  cases fault? with
  | some f => exact ⟨_, .refused time f, hdocument.bind_of_struck rfl _⟩
  | none =>
      obtain ⟨mentions, hcourses, hmentions⟩ := runs_mentions d.id (firstMentions p d) _
      cases hfirst : firstFault? mentions.flatten with
      | some f =>
          exact ⟨_, .stopped time mentions hcourses hfirst,
            hdocument.bind_of_made rfl (hmentions.bind_of_struck hfirst _)⟩
      | none =>
          obtain ⟨pairs, hwrites, hpairs⟩ := runs_pairs p.persistGeneric d.id
            (Entity.pairs (firstMentions p d)) _
          refine ⟨_, .finished time mentions pairs hcourses hfirst hwrites,
            hdocument.bind_of_made rfl (hmentions.bind_of_made hfirst (hpairs.bind_silent ?_))⟩
          exact fun s' => (runs_log _ _ _ s').bind_silent fun s'' => runs_pure (recorded p d) s''

/-- **Recording a document goes in one of the three ways**, whatever the faults are. -/
theorem runs_record (p : Policy) (d : Document) (s : Session) :
    ∃ as, Course p d as ∧ (record p d).Runs s as (recorded p d) := by
  let enter (s : Session) : Session := { s with context := (s.context.enter (some d.id) none).1 }
  obtain ⟨as, hcourse, hrun⟩ := runs_recordAll p d
    (setOperation (some "record_document") (enter s))
  refine ⟨as, hcourse, ?_⟩
  have hduring : (during "record_document" (recordAll p d)).Runs (enter s) as (recorded p d) :=
    .scoped (setOperation (some "record_document")) (fun _ t => setOperation none t)
      (fun _ => rfl) hrun ⟨rfl, rfl, rfl⟩ fun _ => ⟨rfl, rfl, rfl⟩
  exact .scoped enter
    (fun s t => { t with context := (s.context.enter (some d.id) none).2.leave t.context })
    (fun _ => rfl) hduring ⟨rfl, rfl, rfl⟩ fun _ => ⟨rfl, rfl, rfl⟩

/-! ### What is there afterwards -/

/-- The writes that no fault has struck, without their times. -/
lemma map_fst_made (as : List Attempt) :
    (made as).map Prod.fst = (as.filter fun a => a.fault?.isNone).map Attempt.write := by
  simp [made, Function.comp_def]

/-- The appearances among the writes of mentions come after their entities. -/
lemma grounded_courses {document : String} {known : List String} {es : List Entity}
    {mentions : List (List Attempt)}
    (h : List.Forall₂ (MentionCourse document) es mentions) (hknown : document ∈ known) :
    Grounded known ((made mentions.flatten).map Prod.fst) := by
  induction h generalizing known with
  | nil => trivial
  | @cons e as es mentions hcourse _ ih =>
      rw [List.flatten_cons, made_append, List.map_append]
      cases hcourse with
      | struck time f => exact ih hknown
      | written time time' fault? =>
          have hknown' : document ∈ e.id :: known := List.mem_cons_of_mem _ hknown
          cases fault? with
          | none => exact ⟨⟨List.mem_cons_self, hknown'⟩, ih hknown'⟩
          | some f => exact ih hknown'

/-- When no fault has struck a mention, all entities are written. -/
lemma entityWrite_mem_made {document : String} {es : List Entity}
    {mentions : List (List Attempt)}
    (h : List.Forall₂ (MentionCourse document) es mentions)
    (hmade : firstFault? mentions.flatten = none) {e : Entity} (he : e ∈ es) :
    entityWrite e ∈ (made mentions.flatten).map Prod.fst := by
  induction h with
  | nil => exact absurd he List.not_mem_nil
  | @cons e' as es mentions hcourse _ ih =>
      rw [List.flatten_cons, firstFault?_append, Option.or_eq_none_iff] at hmade
      rw [List.flatten_cons, made_append, List.map_append, List.mem_append]
      rcases List.mem_cons.mp he with rfl | he
      · cases hcourse with
        | struck time f => exact absurd hmade.1 (by simp [firstFault?])
        | written time time' fault? => exact .inl (by simp [made])
      · exact .inr (ih hmade.2 he)

/-- **What is written is written in order**: every edge after its end points, however the recording
goes. -/
theorem Course.grounded {as : List Attempt} (h : Course p d as) :
    Grounded [] ((made as).map Prod.fst) := by
  have hdocument := List.mem_singleton_self d.id
  cases h with
  | refused time f => trivial
  | stopped time mentions hcourses hfirst => exact grounded_courses hcourses hdocument
  | finished time mentions pairs hcourses hfirst hpairs =>
      have hmentions := grounded_courses hcourses hdocument
      have hrelationships : Grounded ((firstMentions p d).map fun e => e.id)
          ((made pairs).map Prod.fst) := by
        refine .of_edges fun w hw => ?_
        rw [map_fst_made] at hw
        have hw' : w ∈ pairs.map Attempt.write := (List.filter_sublist.map _).subset hw
        rw [hpairs] at hw'
        exact ends_of_mem_relationships hw'
      show Grounded [d.id] ((made (mentions.flatten ++ pairs)).map Prod.fst)
      rw [made_append, List.map_append]
      refine hmentions.append hrelationships fun id hid => .inr ?_
      obtain ⟨e, he, rfl⟩ := List.mem_map.mp hid
      exact List.mem_map_of_mem (f := Write.key) (entityWrite_mem_made hcourses hfirst he)

/-- **Where a failed recording is cut off.** Whatever the graph holds and whichever writes are
struck, recording a document goes in one of three ways: the vertex of the document is not written,
and nothing else is attempted; or some mention is not written entirely, and all mentions have been
attempted but no relationship; or all mentions are written, and all relationships have been
attempted. The graph has carried out the writes that were not struck and nothing else, and what they
create is there. What is reported is the first fault that has struck, and the recording succeeds if
none has. -/
theorem record_cutoff (p : Policy) (d : Document) (s : Session) :
    ∃ as, Course p d as ∧ Leads s as (record p d s).2 ∧
      (∀ a ∈ as.head?, a.fault?.isSome → (record p d s).2.graph = s.graph) ∧
      (∀ a ∈ as, a.fault? = none → (record p d s).2.graph.Has a.write.key) ∧
      (record p d s).1 = verdict (recorded p d) as := by
  obtain ⟨as, hcourse, hresult, hleads⟩ := runs_record p d s
  refine ⟨as, hcourse, hleads, fun a ha hstruck => ?_, fun a ha hmade => ?_, hresult⟩
  · rw [hleads.graph]
    cases hcourse with
    | refused time f => rfl
    | stopped time mentions hcourses hfirst =>
        obtain rfl := Option.some.inj ha
        exact absurd hstruck (by simp)
    | finished time mentions pairs hcourses hfirst hpairs =>
        obtain rfl := Option.some.inj ha
        exact absurd hstruck (by simp)
  · rw [hleads.graph]
    refine (hcourse.grounded.has_writeAll_iff (by simp) _).mpr (.inr ?_)
    refine List.mem_map.mpr ⟨(a.write, a.time), ?_, rfl⟩
    exact List.mem_map.mpr ⟨a, List.mem_filter.mpr ⟨ha, by simp [hmade]⟩, rfl⟩

end EntityGraph.Recording
