import EntityGraph.Value.Basic
/-!
Values where texts are needed.

* `TextUse`: what is to be done with a text.
* `NotText`: a value that is no text was met instead, and the wording.
* `Value.needText`: the text that a value is.
* `Value.readable?`: the text that a value gives to a reader.
-/

namespace EntityGraph

/-- What is to be done with a text. -/
inductive TextUse where
  | replace
  | lower
  | upper
  | capitalize
  | strip
  deriving DecidableEq, Repr

/-- The name of a use. -/
def TextUse.name : TextUse → String
  | replace => "replace"
  | lower => "lower"
  | upper => "upper"
  | capitalize => "capitalize"
  | strip => "strip"

/-- The name of the kind of a value. -/
def Value.kindName : Value → String
  | null => "NoneType"
  | bool _ => "bool"
  | int _ => "int"
  | float _ => "float"
  | str _ => "str"
  | list _ => "list"
  | object _ => "dict"

/-- A value that is no text was met where one was needed. -/
structure NotText where
  value : Value
  use : TextUse
  deriving Repr

/-- What is said about a value that is no text. -/
def NotText.message (e : NotText) : String :=
  "'" ++ e.value.kindName ++ "' object has no attribute '" ++ e.use.name ++ "'"

/-- The text that a value is. -/
def Value.needText (use : TextUse) : Value → Except NotText String
  | str s => .ok s
  | v => .error ⟨v, use⟩

/-- The text that a value gives to a reader: where there is nothing to read, the text is empty. -/
def Value.readable? : Value → Option String
  | str s => some s
  | list [] | object [] => some ""
  | _ => none

end EntityGraph
