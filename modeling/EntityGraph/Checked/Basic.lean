/-!
Input that is checked field by field, with everything that is wrong reported at once.

* `Complaint`: what can be wrong with one value, with a short code and the wording.
* `Issue`: a complaint and the path to the value it concerns.
* `Checked`: a value, or the issues found while it was read. As an applicative functor it collects
  the issues of all parts, in order; `Checked.andThen` stops at the first stage that has any.
-/

namespace EntityGraph

/-- What can be wrong with a value. -/
inductive Complaint where
  | missing
  | notText
  | emptyText
  | notInteger
  | unreadableInteger
  | hugeInteger
  | fractional
  | notFinite
  | notNumber
  | unreadableNumber
  | belowZero
  | aboveOne
  | notTruth
  | unreadableTruth
  | notList
  | notMap
  | notPath
  /-- The value should be a record of the named kind. -/
  | notRecord (kind : String)
  /-- The value should be one of the given texts. -/
  | notAmong (choices : List String)
  /-- A rule of the field, in words. -/
  | rule (text : String)
  deriving DecidableEq, Repr

namespace Complaint

/-- Texts in quotes, separated by commas and by `or` before the last one. -/
def alternatives : List String → String
  | [] => ""
  | [s] => "'" ++ s ++ "'"
  | [s, t] => "'" ++ s ++ "' or '" ++ t ++ "'"
  | s :: rest => "'" ++ s ++ "', " ++ alternatives rest

/-- The short code of a complaint. -/
def code : Complaint → String
  | missing => "missing"
  | notText => "string_type"
  | emptyText => "string_too_short"
  | notInteger => "int_type"
  | unreadableInteger => "int_parsing"
  | hugeInteger => "int_parsing_size"
  | fractional => "int_from_float"
  | notFinite => "finite_number"
  | notNumber => "float_type"
  | unreadableNumber => "float_parsing"
  | belowZero => "greater_than_equal"
  | aboveOne => "less_than_equal"
  | notTruth => "bool_type"
  | unreadableTruth => "bool_parsing"
  | notList => "list_type"
  | notMap => "dict_type"
  | notPath => "path_type"
  | notRecord _ => "model_type"
  | notAmong _ => "literal_error"
  | rule _ => "value_error"

/-- What a complaint says. -/
def message : Complaint → String
  | missing => "Field required"
  | notText => "Input should be a valid string"
  | emptyText => "String should have at least 1 character"
  | notInteger => "Input should be a valid integer"
  | unreadableInteger =>
    "Input should be a valid integer, unable to parse string as an integer"
  | hugeInteger => "Unable to parse input string as an integer, exceeded maximum size"
  | fractional => "Input should be a valid integer, got a number with a fractional part"
  | notFinite => "Input should be a finite number"
  | notNumber => "Input should be a valid number"
  | unreadableNumber => "Input should be a valid number, unable to parse string as a number"
  | belowZero => "Input should be greater than or equal to 0"
  | aboveOne => "Input should be less than or equal to 1"
  | notTruth => "Input should be a valid boolean"
  | unreadableTruth => "Input should be a valid boolean, unable to interpret input"
  | notList => "Input should be a valid list"
  | notMap => "Input should be a valid dictionary"
  | notPath => "Input is not a valid path for <class 'pathlib.Path'>"
  | notRecord kind => "Input should be a valid dictionary or instance of " ++ kind
  | notAmong choices => "Input should be " ++ alternatives choices
  | rule text => "Value error, " ++ text

end Complaint

/-- One step on the way to a value. -/
inductive PathStep where
  | field (name : String)
  | item (index : Nat)
  deriving DecidableEq, Repr

/-- A complaint about the value at the end of a path. -/
structure Issue where
  path : List PathStep
  complaint : Complaint
  deriving DecidableEq, Repr

/-- A value that passed its checks, or the issues found. -/
inductive Checked (α : Type) where
  | valid (a : α)
  | invalid (issues : List Issue)
  deriving Repr

namespace Checked

variable {α β : Type}

/-- A single complaint about the value itself. -/
def complain (c : Complaint) : Checked α := invalid [⟨[], c⟩]

/-- Change a valid value. -/
def map (f : α → β) : Checked α → Checked β
  | valid a => valid (f a)
  | invalid issues => invalid issues

/-- Put two parts together; the issues of both are kept, those of the first one first. -/
def apply (f : Checked (α → β)) (x : Checked α) : Checked β :=
  match f, x with
  | valid f, valid a => valid (f a)
  | valid _, invalid issues => invalid issues
  | invalid issues, valid _ => invalid issues
  | invalid issues, invalid more => invalid (issues ++ more)

/-- Reading all parts of a record, so that the issues of every part are found. -/
instance : Applicative Checked where
  pure := valid
  map := map
  seq f x := apply f (x ())

/-- A further check of a valid value. -/
def andThen (x : Checked α) (f : α → Checked β) : Checked β :=
  match x with
  | valid a => f a
  | invalid issues => invalid issues

/-- The issues of a value, seen from one step further out. -/
def under (step : PathStep) : Checked α → Checked α
  | valid a => valid a
  | invalid issues => invalid (issues.map fun i => { i with path := step :: i.path })

/-- The same as an ordinary result. -/
def toExcept : Checked α → Except (List Issue) α
  | valid a => .ok a
  | invalid issues => .error issues

/-- Valid parts make a valid whole. -/
@[simp] theorem apply_valid (f : α → β) (a : α) : apply (valid f) (valid a) = valid (f a) := rfl

end Checked

end EntityGraph
