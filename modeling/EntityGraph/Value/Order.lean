import EntityGraph.Decimal.Binary64
import EntityGraph.Value.Basic
/-!
When values are the same, and how they are ordered.

Numbers are compared by what they stand for: truth values count as 0 and 1, and integers and
binary64 numbers are compared exactly. Texts are ordered by code points, and lists by their first
difference. Everything else has no order.

* `Quantity`: what a number stands for.
* `Value.same`: equality. Objects are the same when they have the same fields, in any order.
* `Value.less?`: whether one value comes before another, when the two have an order.
* `Value.sortedBy?`: things in the order of their keys, when all keys have an order.
* `same_str`, `less?_str`: on texts these are the usual equality and order.
-/

namespace EntityGraph

/-- What a number stands for. -/
inductive Quantity where
  | minusInfinity
  /-- A fraction with a positive denominator. -/
  | finite (num : Int) (den : Nat)
  | infinity
  | undefined
  deriving Repr, DecidableEq

namespace Quantity

/-- The quantity of an integer. -/
def ofInt (n : Int) : Quantity := finite n 1

/-- The quantity of a binary64 number. -/
def ofFloat (x : Float) : Quantity :=
  match Decimal.classify x with
  | .notANumber => undefined
  | .infinite => if Decimal.isNegative x then minusInfinity else infinity
  | .finite m =>
    let (num, den) := m.fraction
    finite (if Decimal.isNegative x then -(num : Int) else num) den

/-- Which of two quantities is greater. What is undefined is not compared. -/
def compare? : Quantity → Quantity → Option Ordering
  | undefined, _ | _, undefined => none
  | finite a b, finite c d => some (compare (a * d) (c * b))
  | minusInfinity, minusInfinity | infinity, infinity => some .eq
  | minusInfinity, _ | _, infinity => some .lt
  | infinity, _ | _, minusInfinity => some .gt

/-- The least integer that is not below a quantity; `none` when there is no such integer or every
integer is one. -/
def ceiling? : Quantity → Option Int
  | finite num den => some (-(-num / den))
  | _ => none

end Quantity

namespace Value

/-- The binary64 number nearest to a number. -/
def number? : Value → Option Float
  | bool b => some (if b then 1.0 else 0.0)
  | int n => some (.ofInt n)
  | float x => some x
  | _ => none

/-- What a number stands for. -/
def quantity? : Value → Option Quantity
  | bool b => some (.ofInt (if b then 1 else 0))
  | int n => some (.ofInt n)
  | float x => some (.ofFloat x)
  | _ => none

mutual

/-- Whether two values are the same. -/
def same : Value → Value → Bool
  | str s, str t => s == t
  | null, null => true
  | list vs, list ws => sameItems vs ws
  | object fs, object gs => fs.length == gs.length && sameFields fs gs
  | v, w =>
    match v.quantity?, w.quantity? with
    | some p, some q => p.compare? q == some .eq
    | _, _ => false

/-- Whether two lists have the same items. -/
def sameItems : List Value → List Value → Bool
  | [], [] => true
  | v :: vs, w :: ws => same v w && sameItems vs ws
  | _, _ => false

/-- Whether each of some fields has the same value among others. -/
def sameFields : List (String × Value) → List (String × Value) → Bool
  | [], _ => true
  | (k, v) :: rest, others =>
    (match Fields.get? others k with
      | some w => same v w
      | none => false) && sameFields rest others

end

mutual

/-- Whether a value comes before another one. -/
def less? : Value → Value → Option Bool
  | str s, str t => some (decide (s < t))
  | list vs, list ws => lessItems? vs ws
  | v, w =>
    match v.quantity?, w.quantity? with
    | some p, some q => some (p.compare? q == some .lt)
    | _, _ => none

/-- Whether a list comes before another one: the first items that differ decide, and then the
lengths. -/
def lessItems? : List Value → List Value → Option Bool
  | [], [] => some false
  | [], _ :: _ => some true
  | _ :: _, [] => some false
  | v :: vs, w :: ws => if same v w then lessItems? vs ws else less? v w

end

/-- Two texts are the same when they are equal. -/
@[simp] theorem same_str (s t : String) : same (str s) (str t) = (s == t) := by simp [same]

/-- Only a text is the same as a text. -/
theorem same_str_right (v : Value) (t : String) : same v (str t) = (v.text? == some t) := by
  cases v <;> simp [same, text?, quantity?]

/-- A text comes before another one by its code points. -/
@[simp] theorem less?_str (s t : String) : less? (str s) (str t) = some (decide (s < t)) := by
  simp [less?]

/-- Whether a value can be a key: lists and objects cannot. -/
def isKey : Value → Bool
  | list _ | object _ => false
  | _ => true

/-- Whether every two of some values have an order. -/
def haveOrder : List Value → Bool
  | [] => true
  | v :: rest => rest.all (fun w => (less? v w).isSome) && haveOrder rest

/-- Things in the order of their keys. Things whose keys are the same keep their order. -/
def sortedBy? {α : Type} (key : α → Value) (things : List α) : Option (List α) :=
  if haveOrder (things.map key) then
    some (things.mergeSort fun a b => !(less? (key b) (key a)).getD false)
  else none

/-- Texts have an order. -/
@[simp] theorem haveOrder_map_str (texts : List String) : haveOrder (texts.map str) = true := by
  induction texts with
  | nil => rfl
  | cons t rest ih => simp [haveOrder, ih]

end Value

end EntityGraph
