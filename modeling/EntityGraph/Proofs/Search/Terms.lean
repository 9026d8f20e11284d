import EntityGraph.Proofs.Query.Rendering
import EntityGraph.Proofs.Recording.Vertices
/-!
When a term holds of a document that was recorded.

* `Entity.value?`: what a mention says in a field that queries can name.
* `said`: whether a term holds of the documents with an id, told by what was recorded: some entity
  that is mentioned there has the value in its first mention, wherever that is. `said_iff` spells
  this out.
* `History.satisfies_eq_said`: the graph of a history gives the same answer.
* `History.satisfies_text_iff`: an entity of a document is found in it by the text of its first
  mention.
-/

namespace EntityGraph

open Query Relationship

/-- What a mention says in a field that queries can name. -/
def Entity.value? (e : Entity) : String → Option String
  | "text" => some e.text
  | "category" => some e.category
  | "subCategory" => e.subCategory
  | "type" => some e.kind
  | _ => none

/-- The vertex of an entity has the values of the mention from which it was made. -/
lemma hasText_entityVertex (e : Entity) (time : String) {field : String}
    (hfield : field ∈ writableFields) (value : String) :
    (entityVertex e time).hasText field value = (e.value? field == some value) := by
  obtain ⟨⟨text, category⟩, subCategory, confidence, offset, length⟩ := e
  simp only [writableFields, filterFields, textField, List.mem_cons, List.not_mem_nil,
    or_false] at hfield
  rcases hfield with rfl | rfl | rfl | rfl
  · rfl
  · rfl
  · -- a missing subcategory is no property
    cases subCategory with
    | none => rfl
    | some s => rfl
  · cases subCategory with
    | none => rfl
    | some s => rfl

namespace Recording

variable {p : Policy} {d : Document} {r : Recorded} {g : Graph} {h : List (Document × Recorded)}
  {e : Entity} {id : String} {t : Term}

/-- Whether a term holds of the documents with an id, told by what was recorded: some entity that is
mentioned there has the value of the term in its first mention, wherever that is. -/
def said (p : Policy) (h : List (Document × Recorded)) (id : String) (t : Term) : Bool :=
  h.any fun x => x.1.id == id && (Entity.confident p.threshold x.1.entities).any fun e =>
    ((mentions p h).find? fun a => a.id == e.id).any fun first =>
      first.value? t.field == some t.value

lemma said_iff : said p h id t = true ↔ ∃ d r, (d, r) ∈ h ∧ d.id = id ∧
    ∃ first, Entity.IsFirst (mentions p h) first ∧ Mentions p d first.id ∧
      first.value? t.field = some t.value := by
  simp only [said, List.any_eq_true, Bool.and_eq_true, beq_iff_eq, Option.any_eq_true,
    Entity.find?_eq_some_iff, Prod.exists, Mentions]
  grind

/-- What appears in a document are the entities that it mentions in one of its recordings. -/
lemma History.mem_appearing_iff (H : History p h g) {v : Vertex} :
    v ∈ g.appearing id ↔ v ∈ g.labelled entityLabel ∧
      ∃ d r, (d, r) ∈ h ∧ d.id = id ∧ Mentions p d v.id := by
  have hhas : (v.id, id, appearsIn) ∈ g.edgeKeys ↔
      ∃ d r, (d, r) ∈ h ∧ Says p d (.edge v.id id appearsIn) := H.has_iff (k := .edge v.id id _)
  rw [H.simple.mem_appearing_iff, hhas]
  simp only [says_appearance_iff, Graph.labelled, List.mem_filter, Vertex.isEntity, and_assoc]

/-- **The graph answers a term by what was recorded.** -/
theorem History.satisfies_eq_said (H : History p h g) (hids : IdsApart p h)
    (hfield : t.field ∈ writableFields) (id : String) :
    g.satisfies id t.asked = said p h id t := by
  rw [Bool.eq_iff_iff, said_iff, Graph.satisfies, List.any_eq_true]
  simp only [Term.asked, Vertex.holds_str, H.mem_appearing_iff]
  constructor
  · rintro ⟨v, ⟨hv, d, r, hmem, hid, hmentions⟩, hvalue⟩
    obtain ⟨first, time, hfirst, rfl⟩ := H.entityVertex_of_labelled hids hv
    rw [hasText_entityVertex first time hfield, beq_iff_eq] at hvalue
    exact ⟨d, r, hmem, hid, first, hfirst, hmentions, hvalue⟩
  · rintro ⟨d, r, hmem, hid, first, hfirst, hmentions, hvalue⟩
    obtain ⟨first', time, hfirst', hsame, hv⟩ := H.exists_entity_vertex hids hfirst.mem
    obtain rfl : first' = first := hfirst'.eq_of_id_eq hfirst hsame
    refine ⟨_, ⟨List.mem_filter.mpr ⟨hv, isEntity_entityVertex first' time⟩, d, r, hmem, hid,
      hmentions⟩, ?_⟩
    rw [hasText_entityVertex first' time hfield, beq_iff_eq]
    exact hvalue

/-- **Which texts are found in a document**: a mention of the document is found by its text exactly
if this is how the first mention of its entity is spelled, in whatever document that is. -/
theorem History.satisfies_text_iff (H : History p h g) (hids : IdsApart p h) (hmem : (d, r) ∈ h)
    (he : e ∈ Entity.confident p.threshold d.entities) :
    g.satisfies d.id (.str "text", .str e.text) = true ↔
      ∃ first, Entity.IsFirst (mentions p h) first ∧ first.id = e.id ∧ first.text = e.text := by
  have hsaid := H.satisfies_eq_said (t := ⟨textField, e.text⟩) hids List.mem_cons_self d.id
  refine (Bool.eq_iff_iff.mp hsaid).trans (said_iff.trans ⟨?_, ?_⟩)
  · rintro ⟨-, -, -, -, first, hfirst, -, hvalue⟩
    have htext : first.text = e.text := Option.some.inj hvalue
    exact ⟨first, hfirst, congrArg vertexId htext, htext⟩
  · rintro ⟨first, hfirst, hid, htext⟩
    exact ⟨d, r, hmem, rfl, first, hfirst, ⟨e, he, hid.symm⟩, congrArg some htext⟩

end Recording

end EntityGraph
