import EntityGraph.Proofs.Recording.Plan
/-!
Properties that pass from the parts of a recording to the whole.

* `Action.Sequential`, `Action.Compositional`: a property of the basic actions which passes on to
  what is done one after the other, and to scopes as well.
* `recordAll_of_sequential`: the writes of a document have every property of the first kind.
* `record_of_compositional`: recording a document has every property of the second kind.
-/

namespace EntityGraph

namespace Action

/-- A property of the basic actions which passes on to what is done one after the other. -/
structure Sequential (P : ∀ {α : Type}, Action α → Prop) : Prop where
  pure : ∀ {α : Type} (v : α), P (pure v : Action α)
  log : ∀ level logger message, P (log level logger message)
  now : P now
  write : ∀ (w : Write) (time : String), P (execute (w.traversal time))
  bind : ∀ {α β : Type} {a : Action α} {f : α → Action β}, P a → (∀ v, P (f v)) → P (a >>= f)
  settle : ∀ {as : List (Action Unit)}, (∀ a ∈ as, P a) → P (settle as)

/-- A property of the basic actions which passes on to what is composed of actions with it. -/
structure Compositional (P : ∀ {α : Type}, Action α → Prop) : Prop extends Sequential @P where
  within : ∀ {α : Type} {a : Action α}, P a → ∀ document run, P (within document run a)
  during : ∀ {α : Type} {a : Action α}, P a → ∀ operation, P (during operation a)

namespace Sequential

variable {P : ∀ {α : Type}, Action α → Prop} {α : Type} {a : Action α}

lemma discard (h : Sequential P) (ha : P a) : P (discard a : Action Unit) :=
  h.bind (f := fun _ => (Pure.pure () : Action Unit)) ha fun _ => h.pure ()

lemma writeNow (h : Sequential P) (w : Write) : P (writeNow w) :=
  h.bind h.now fun time => h.discard (h.write w time)

end Sequential

end Action

namespace Recording

open EntityGraph.Action

variable {P : ∀ {α : Type}, Action α → Prop}

lemma warnReserved_of_sequential (h : Sequential P) (document : String) (metadata : Fields) :
    P (warnReserved document metadata) := by
  induction metadata with
  | nil => exact h.pure ()
  | cons field rest ih =>
      obtain ⟨k, v⟩ := field
      rw [warnReserved]
      split
      · exact h.bind (h.log _ _ _) fun _ => ih
      · exact h.bind (f := fun _ => warnReserved document rest) (h.pure ()) fun _ => ih

lemma writeDocument_of_sequential (h : Sequential P) (d : Document) :
    P (writeDocument d.id d.metadata.toFields) := by
  rw [writeDocument_eq]
  exact h.bind (warnReserved_of_sequential h _ _) fun _ =>
    h.bind (h.writeNow (documentWrite d)) fun _ => h.log _ _ _

lemma writeMention_of_sequential (h : Sequential P) (document : String) (e : Entity) :
    P (writeMention document e) := by
  have hentity : P (writeEntity e) := by
    rw [writeEntity_eq]
    exact h.bind (h.writeNow (entityWrite e)) fun _ => h.bind (h.log _ _ _) fun _ => h.pure e.id
  exact h.bind hentity fun id => h.bind h.now fun time => h.discard
    (h.write (.edge Relationship.appearsIn id document (appearanceProperties e)) time)

lemma writeRelationship_of_sequential (h : Sequential P) (persistGeneric : Bool)
    (a b : Entity) (document : String) : P (writeRelationship persistGeneric a b document) := by
  obtain ⟨-, heq | ⟨message, heq⟩⟩ | ⟨w, message, r, -, heq⟩ :=
    writeRelationship_cases persistGeneric a b document
  · rw [heq]
    exact h.pure none
  · rw [heq]
    exact h.bind (h.log _ _ _) fun _ => h.pure none
  · rw [heq]
    exact h.bind (h.writeNow w) fun _ => h.bind (h.log _ _ _) fun _ => h.pure (some r)

/-- The writes of a document are composed of basic actions, one after the other. -/
lemma recordAll_of_sequential (h : Sequential P) (p : Policy) (d : Document) :
    P (recordAll p d) := by
  have hmentions : P (settle ((firstMentions p d).map (writeMention d.id))) := by
    refine h.settle fun a ha => ?_
    obtain ⟨e, -, rfl⟩ := List.mem_map.mp ha
    exact writeMention_of_sequential h d.id e
  have hpairs : P (settle ((Entity.pairs (firstMentions p d)).map fun q =>
      discard (writeRelationship p.persistGeneric q.1 q.2 d.id))) := by
    refine h.settle fun a ha => ?_
    obtain ⟨q, -, rfl⟩ := List.mem_map.mp ha
    exact h.discard (writeRelationship_of_sequential h p.persistGeneric q.1 q.2 d.id)
  exact h.bind (writeDocument_of_sequential h d) fun _ => h.bind hmentions fun _ =>
    h.bind hpairs fun _ => h.bind (h.log _ _ _) fun _ => h.pure _

/-- **Recording a document is composed of basic actions**, so it has every property that these have
and that passes on. -/
theorem record_of_compositional (h : Compositional P) (p : Policy) (d : Document) :
    P (record p d) :=
  h.within (h.during (recordAll_of_sequential h.toSequential p d) "record_document") d.id none

end Recording

end EntityGraph
