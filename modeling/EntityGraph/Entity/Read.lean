import EntityGraph.Checked.Read
import EntityGraph.Entity.Basic
import EntityGraph.Value.Order
/-!
Entities read from the form in which recognition services send them.

* `Entity.ofValue`: text and category have to hold something other than white space, and the
  confidence lies between 0 and 1. Subcategory and confidence may come under either of two names.
* `Entity.confidentBy?`: the confident mentions by a threshold that callers give.
-/

namespace EntityGraph.Entity

open Checked

/-- A text that holds something other than white space. -/
def unblankText (v : Value) : Checked String :=
  (filledText v).andThen fun s =>
    if Text.isBlankText s then complain (.rule "must not be blank") else valid s

/-- A number from 0 to 1. -/
def unitNumber (v : Value) : Checked Float :=
  (number v).andThen fun x =>
    if !(x ≤ 1.0) then complain .aboveOne
    else if !(0.0 ≤ x) then complain .belowZero
    else valid x

/-- An entity from its parts. -/
def ofParts (text category : String) (subCategory : Option String) (confidence : Float)
    (offset length : Option Int) : Entity :=
  { text, category, subCategory, confidence, offset, length }

/-- An entity. -/
def ofValue (v : Value) : Checked Entity :=
  (fieldsOf "ExtractedEntity" v).andThen fun fields =>
    ofParts <$> required fields ["text"] unblankText
      <*> required fields ["category"] unblankText
      <*> withDefault fields ["subCategory", "sub_category"] none (optional Checked.text)
      <*> required fields ["confidenceScore", "confidence_score"] unitNumber
      <*> withDefault fields ["offset"] none (optional integer)
      <*> withDefault fields ["length"] none (optional integer)

/-- The mentions whose confidence reaches a threshold of any kind. A threshold that is no number
matters only when there is a mention. -/
def confidentBy? (threshold : Value) (es : List Entity) : Option (List Entity) :=
  match threshold.number? with
  | some t => some (confident t es)
  | none => if es.isEmpty then some [] else none

end EntityGraph.Entity
