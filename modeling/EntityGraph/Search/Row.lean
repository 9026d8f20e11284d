import EntityGraph.Graph.Basic
/-!
Rows as searches return them.

* `Row.flatten`: a list of one value becomes the value itself; everything else stays.
-/

namespace EntityGraph.Row

/-- A value without the list around it, if the list holds nothing else. -/
def unwrap : Value → Value
  | .list [v] => v
  | v => v

/-- A row whose lists of one value are unwrapped. -/
def flatten (row : Row) : Row := row.map fun (k, v) => (k, unwrap v)

/-- A field of a row that is a row itself. -/
def inner (row : Row) (name : String) : Row := ((Fields.get? row name).bind Value.fields?).getD []

/-- A row with an appearance and the vertex that appears, both flattened. -/
def flattenAppearance (row : Row) : Row :=
  [("context", .object (flatten (row.inner "context"))),
    ("entity", .object (flatten (row.inner "entity")))]

/-- A row with a pair of texts as a list, and their count. -/
def flattenPair (row : Row) : Row :=
  let pair := row.inner "pair"
  [("pair", .list [pair.getD "a", pair.getD "b"]),
    ("coOccurrences", row.getD "coOccurrences")]

end EntityGraph.Row
