/-!
Values of the data model: what a property, a binding, a configuration field or a result row can
hold.

* `Value`: null, truth values, integers, binary64 numbers, texts, lists, and objects whose fields
  keep their order.
* `Fields`: the fields of an object. `Fields.set` replaces in place or appends, so a key keeps the
  position of its first mention and holds its last value.
* `Fields.get?_set_self`, `Fields.get?_set_of_ne`: what a look-up sees after a write.
* `Fields.get?_append`, `Fields.get?_eq_none`, `Fields.get?_of_mem`: what a look-up finds, and what
  it does not find.
-/

namespace EntityGraph

/-- A value of the data model. -/
inductive Value where
  | null
  | bool (b : Bool)
  | int (n : Int)
  | float (x : Float)
  | str (s : String)
  | list (items : List Value)
  | object (fields : List (String × Value))
  deriving Inhabited, BEq, Repr

/-- The fields of an object, in order. -/
abbrev Fields := List (String × Value)

namespace Fields

/-- The value of a field. -/
def get? : Fields → String → Option Value
  | [], _ => none
  | (k, v) :: rest, key => if k = key then some v else get? rest key

/-- Write a field: in place when it is there, at the end otherwise. -/
def set : Fields → String → Value → Fields
  | [], key, value => [(key, value)]
  | (k, v) :: rest, key, value =>
    if k = key then (k, value) :: rest else (k, v) :: set rest key value

/-- Write several fields, one after the other. -/
def setAll (fields more : Fields) : Fields :=
  more.foldl (fun acc (k, v) => set acc k v) fields

/-- The object that a list of key and value pairs describes. -/
def ofPairs (pairs : Fields) : Fields := setAll [] pairs

/-- The value of a field, with null for a missing one. -/
def getD (fields : Fields) (key : String) : Value := (get? fields key).getD .null

/-- An object without fields has no values. -/
@[simp] theorem get?_nil (key : String) : get? [] key = none := rfl

/-- After a write the field has the value that was written. -/
@[simp] theorem get?_set_self (fields : Fields) (key : String) (value : Value) :
    get? (set fields key value) key = some value := by
  induction fields with
  | nil => simp [set, get?]
  | cons field rest ih =>
    by_cases h : field.1 = key
    · simp [set, get?, h]
    · simp [set, get?, h, ih]

/-- A write leaves all other fields as they are. -/
theorem get?_set_of_ne (fields : Fields) {key other : String} (value : Value) (h : other ≠ key) :
    get? (set fields key value) other = get? fields other := by
  induction fields with
  | nil => simp [set, get?, h.symm]
  | cons field rest ih =>
    by_cases hk : field.1 = key
    · simp [set, get?, hk, h.symm]
    · by_cases ho : field.1 = other
      · subst ho
        simp [set, get?, hk]
      · simp [set, get?, hk, ho, ih]

/-- What is looked up in two lists of fields is looked up in the first one first. -/
theorem get?_append (fields more : Fields) (key : String) :
    get? (fields ++ more) key = (get? fields key).or (get? more key) := by
  induction fields with
  | nil => rfl
  | cons field fields ih =>
    rw [List.cons_append, get?, get?, ih]
    split <;> rfl

/-- A key that no field has is not found. -/
theorem get?_eq_none {fields : Fields} {key : String} (h : key ∉ fields.map Prod.fst) :
    get? fields key = none := by
  induction fields with
  | nil => rfl
  | cons field fields ih =>
    rw [List.map_cons, List.mem_cons, not_or] at h
    rw [get?, if_neg (Ne.symm h.1), ih h.2]

/-- Where no key is there twice, every field is found by its key. -/
theorem get?_of_mem {fields : Fields} (h : (fields.map Prod.fst).Nodup) {field : String × Value}
    (hfield : field ∈ fields) : get? fields field.1 = some field.2 := by
  induction fields with
  | nil => simp at hfield
  | cons head fields ih =>
    rw [List.map_cons, List.nodup_cons] at h
    rcases List.mem_cons.mp hfield with rfl | hrest
    · rw [get?, if_pos rfl]
    · have hne : head.1 ≠ field.1 := fun heq => h.1 (heq ▸ List.mem_map_of_mem hrest)
      rw [get?, if_neg hne, ih h.2 hrest]

end Fields

namespace Value

/-- The text held by a value. -/
def text? : Value → Option String
  | str s => some s
  | _ => none

/-- The items of a list. -/
def items? : Value → Option (List Value)
  | list items => some items
  | _ => none

/-- The fields of an object. -/
def fields? : Value → Option Fields
  | object fields => some fields
  | _ => none

/-- Values that count as absent where only presence is asked: null, false, zeros, empty texts and
empty collections. -/
def isEmptyLike : Value → Bool
  | null => true
  | bool b => !b
  | int n => n == 0
  | float x => x == 0.0
  | str s => s.isEmpty
  | list items => items.isEmpty
  | object fields => fields.isEmpty

/-- A text, or null when there is none. -/
def ofText? : Option String → Value
  | some s => str s
  | none => null

/-- An integer, or null when there is none. -/
def ofInt? : Option Int → Value
  | some n => int n
  | none => null

end Value

end EntityGraph
