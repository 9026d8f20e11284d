import EntityGraph.Decimal.Shortest
import EntityGraph.Text.Quoted
import EntityGraph.Value.Basic
/-!
How values are shown inside messages.

* `Value.display`: texts quoted, numbers in their shortest form, lists in brackets and objects in
  braces.
* `Value.plain`: the same, except that a text at the top stands without quotes.
-/

namespace EntityGraph.Value

open EntityGraph.Text (quoted)

mutual

/-- A value as messages show it. -/
def display : Value → String
  | null => "None"
  | bool b => if b then "True" else "False"
  | int n => toString n
  | float x => Decimal.shortestText x
  | str s => quoted s
  | list items => "[" ++ displayItems items ++ "]"
  | object fields => "\x7b" ++ displayFields fields ++ "\x7d"

/-- The items of a list, separated by commas. -/
def displayItems : List Value → String
  | [] => ""
  | [v] => display v
  | v :: rest => display v ++ ", " ++ displayItems rest

/-- The fields of an object, separated by commas. -/
def displayFields : List (String × Value) → String
  | [] => ""
  | [(k, v)] => quoted k ++ ": " ++ display v
  | (k, v) :: rest => quoted k ++ ": " ++ display v ++ ", " ++ displayFields rest

end

/-- A value as it stands in running text: a text shows as itself. -/
def plain : Value → String
  | str s => s
  | v => display v

end EntityGraph.Value
