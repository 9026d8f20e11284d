import EntityGraph.Value.Basic
/-!
Objects described by values: an object itself, or a list of entries, each made of a key and a value.

* `EntriesError`: why a value describes no object, and the wording.
* `Value.toEntries`: the fields of the object that a value describes. `toEntries_object` says that
  an object describes itself.
* `Value.characters`, `Value.count?`: the parts of a text, and the number of parts of a value.
-/

namespace EntityGraph

/-- Why a value describes no object. -/
inductive EntriesError where
  /-- There are no entries, or keys that are no texts. -/
  | noEntries
  /-- An entry is not made of a key and a value. -/
  | entryLength (index length : Nat)
  deriving DecidableEq, Repr

/-- What is said about entries, as far as anything is. -/
def EntriesError.message : EntriesError → String
  | noEntries => ""
  | entryLength index length =>
    "dictionary update sequence element #" ++ toString index ++ " has length " ++ toString length
      ++ "; 2 is required"

namespace Value

/-- The characters of a text as texts. -/
def characters (s : String) : List Value := s.toList.map fun c => str (String.singleton c)

/-- The entry that a value describes: a key and a value, one after the other. -/
def toEntry (index : Nat) : Value → Except EntriesError (String × Value)
  | list [str k, v] => .ok (k, v)
  | list [_, _] => .error .noEntries
  | list items => .error (.entryLength index items.length)
  | object [(k, _), (v, _)] => .ok (k, str v)
  | object fields => .error (.entryLength index fields.length)
  | str s =>
    match s.toList with
    | [k, v] => .ok (String.singleton k, str (String.singleton v))
    | cs => .error (.entryLength index cs.length)
  | _ => .error .noEntries

/-- The entries that values describe, the first one at place `i`. -/
def toEntriesFrom : (i : Nat) → List Value → Except EntriesError Fields
  | _, [] => .ok []
  | i, v :: rest => do
    let entry ← toEntry i v
    return entry :: (← toEntriesFrom (i + 1) rest)

/-- The fields of the object that a value describes. -/
def toEntries : Value → Except EntriesError Fields
  | object fields => .ok fields
  | list items => (toEntriesFrom 0 items).map Fields.ofPairs
  | str s => (toEntriesFrom 0 (characters s)).map Fields.ofPairs
  | _ => .error .noEntries

/-- An object describes itself. -/
@[simp] theorem toEntries_object (fields : Fields) : toEntries (object fields) = .ok fields := rfl

/-- The number of items of a list, fields of an object or characters of a text. -/
def count? : Value → Option Nat
  | list items => some items.length
  | object fields => some fields.length
  | str s => some s.length
  | _ => none

end Value

end EntityGraph
