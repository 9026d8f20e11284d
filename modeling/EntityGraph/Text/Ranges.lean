/-!
Classes of characters given by ranges of code points.

* `inRanges`: membership in a list of closed ranges; the classes of this folder are tables of
  such ranges, in increasing order.
* `inRanges_iff`: a character belongs to the class exactly when some range holds its code.
-/

namespace EntityGraph.Text

/-- Membership of a character in a list of closed ranges of code points. -/
def inRanges (ranges : List (Nat × Nat)) (c : Char) : Bool :=
  ranges.any fun r => r.1 ≤ c.toNat && c.toNat ≤ r.2

/-- A character belongs to a class exactly when some range of the class holds its code. -/
theorem inRanges_iff {ranges : List (Nat × Nat)} {c : Char} :
    inRanges ranges c = true ↔ ∃ r ∈ ranges, r.1 ≤ c.toNat ∧ c.toNat ≤ r.2 := by
  simp [inRanges]

end EntityGraph.Text
