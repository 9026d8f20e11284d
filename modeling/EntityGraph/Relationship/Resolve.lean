import EntityGraph.Entity.Basic
import EntityGraph.Relationship.Table
/-!
The relationship between two mentions found in one document.

* `Resolved`: a label with the two mentions as source and target.
* `resolve`: mentions of one category are joined symmetrically; for two categories of the vocabulary
  the table is asked in the order of their ranks and then in reverse; everything else merely occurs
  together.
* `symmetric`: a relationship without direction runs from the smaller identity to the larger.
-/

namespace EntityGraph.Relationship

/-- A label and the mentions it joins. -/
structure Resolved where
  label : String
  source : Mention
  target : Mention
  deriving DecidableEq, Repr

/-- Whether a relationship says no more than that two entities occur together. -/
def Resolved.isGeneric (r : Resolved) : Bool := r.label == coOccurs

/-- A relationship without direction runs from the smaller identity to the larger. -/
def symmetric (label : String) (a b : Mention) : Resolved :=
  if a.id ≤ b.id then ⟨label, a, b⟩ else ⟨label, b, a⟩

/-- The relationship of two mentions whose categories are in the vocabulary, the first one ranked
before the second. -/
def directed? (table : Table) (first second : Mention) (c d : Category) : Option Resolved :=
  match table.lookup c d with
  | some label => some ⟨label, first, second⟩
  | none => (table.lookup d c).map fun label => ⟨label, second, first⟩

/-- The relationship between two mentions. -/
def resolve (a b : Mention) : Resolved :=
  if a.category = b.category then symmetric sameCategory a b
  else
    match Category.ofName? a.category, Category.ofName? b.category with
    | some c, some d =>
      let found := if c.rank < d.rank then directed? .standard a b c d
        else directed? .standard b a d c
      found.getD (symmetric coOccurs a b)
    | _, _ => symmetric coOccurs a b

end EntityGraph.Relationship
