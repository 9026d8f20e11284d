import EntityGraph.Entity.Read
import Mathlib.Tactic.Common
/-!
What is certain of entities that have been read.

* `Checked.apply_inv`, `Checked.andThen_inv`, `Checked.required_inv`: a valid whole has valid parts.
* `Entity.not_blank_of_ofValue`: the text and the category of an entity that has been read hold
  something other than white space.
-/

namespace EntityGraph

namespace Checked

variable {α β : Type}

lemma apply_inv {f : Checked (α → β)} {x : Checked α} {b : β} (h : apply f x = valid b) :
    ∃ g a, f = valid g ∧ x = valid a ∧ g a = b := by
  cases f with
  | valid g =>
      cases x with
      | valid a => exact ⟨g, a, rfl, rfl, valid.inj h⟩
      | invalid issues => exact absurd h (by simp [apply])
  | invalid issues =>
      cases x with
      | valid a => exact absurd h (by simp [apply])
      | invalid more => exact absurd h (by simp [apply])

lemma map_inv {f : α → β} {x : Checked α} {b : β} (h : x.map f = valid b) :
    ∃ a, x = valid a ∧ f a = b := by
  cases x with
  | valid a => exact ⟨a, rfl, valid.inj h⟩
  | invalid issues => exact absurd h (by simp [map])

lemma andThen_inv {f : α → Checked β} {x : Checked α} {b : β} (h : x.andThen f = valid b) :
    ∃ a, x = valid a ∧ f a = valid b := by
  cases x with
  | valid a => exact ⟨a, rfl, h⟩
  | invalid issues => exact absurd h (by simp [andThen])

/-- A field that has been read has been read from something. -/
lemma required_inv {fields : Fields} {names : List String} {read : Value → Checked α} {a : α}
    (h : required fields names read = valid a) : ∃ v, read v = valid a := by
  rw [required] at h
  cases hfound : firstNamed? fields names with
  | none =>
      rw [hfound] at h
      exact absurd h (by simp)
  | some found =>
      rw [hfound] at h
      refine ⟨found.2, ?_⟩
      cases hread : read found.2 with
      | valid b =>
          simp only [hread, under] at h
          exact h
      | invalid issues =>
          simp only [hread, under] at h
          exact absurd h (by simp)

end Checked

namespace Entity

open Checked

lemma not_blank_of_unblankText {v : Value} {s : String} (h : unblankText v = valid s) :
    Text.isBlankText s = false := by
  obtain ⟨t, -, h⟩ := andThen_inv h
  cases hblank : Text.isBlankText t with
  | true =>
      rw [hblank, if_pos rfl] at h
      exact absurd h (by simp [complain])
  | false =>
      rw [hblank, if_neg Bool.false_ne_true] at h
      rwa [← valid.inj h]

/-- **What is read as an entity** has a text and a category that are not blank. -/
theorem not_blank_of_ofValue {v : Value} {e : Entity} (h : ofValue v = valid e) :
    Text.isBlankText e.text = false ∧ Text.isBlankText e.category = false := by
  obtain ⟨fields, -, hparts⟩ := andThen_inv h
  obtain ⟨f₁, length, hlength, -, rfl⟩ := apply_inv hparts
  obtain ⟨f₂, offset, hoffset, -, rfl⟩ := apply_inv hlength
  obtain ⟨f₃, confidence, hconfidence, -, rfl⟩ := apply_inv hoffset
  obtain ⟨f₄, subCategory, hsubCategory, -, rfl⟩ := apply_inv hconfidence
  obtain ⟨f₅, category, hfirst, hcategory, rfl⟩ := apply_inv hsubCategory
  obtain ⟨text, htext, rfl⟩ := map_inv hfirst
  obtain ⟨v₁, hread₁⟩ := required_inv htext
  obtain ⟨v₂, hread₂⟩ := required_inv hcategory
  exact ⟨not_blank_of_unblankText hread₁, not_blank_of_unblankText hread₂⟩

end Entity

end EntityGraph
