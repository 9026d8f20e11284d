import EntityGraph.Text.Blank
import EntityGraph.Value.Display
/-!
What callers of a search may ask for.

* `RequestError`: why a request is refused before anything is sent to the graph, and the wording.
* `positive`: a count has to be an integer from 1 on; truth values and whole floating-point numbers
  are no integers.
* `requireText`: a text has to hold something other than white space.
-/

namespace EntityGraph

/-- Why a request is refused. -/
inductive RequestError where
  | notPositive (name : String) (given : Value)
  | blank (name : String)
  | textInsteadOfTexts
  | tooFewTexts
  deriving Repr

namespace RequestError

/-- What a refusal says. -/
def message : RequestError → String
  | notPositive name given => name ++ " must be a positive integer, got " ++ given.display
  | blank name => name ++ " must be a non-empty string"
  | textInsteadOfTexts => "entity_texts must be a collection of strings, not a string"
  | tooFewTexts => "At least two distinct entity texts are required to find common connections"

end RequestError

/-- A positive integer. -/
def positive (name : String) (given : Value) : Except RequestError Int :=
  match given with
  | .int n => if 1 ≤ n then .ok n else .error (.notPositive name given)
  | _ => .error (.notPositive name given)

/-- A text that is not blank. -/
def requireText (name : String) (given : Value) : Except RequestError String :=
  match given with
  | .str s => if Text.isBlankText s then .error (.blank name) else .ok s
  | _ => .error (.blank name)

end EntityGraph
