/-!
Binary64 numbers taken apart, so that their decimal texts can be computed in exact arithmetic.

* `Magnitude`: the absolute value of a finite number as `mantissa * 2 ^ exponent`, with a flag for
  the numbers whose lower neighbour is nearer than the upper one.
* `classify`: sign, and infinity, not-a-number or magnitude.
* `integerPart?`: a finite number without its fraction.
-/

namespace EntityGraph.Decimal

/-- An absolute value `mantissa * 2 ^ exponent`. -/
structure Magnitude where
  mantissa : Nat
  exponent : Int
  /-- The gap below is half the gap above: the value is a power of two above the least one. -/
  narrowBelow : Bool
  deriving Repr, DecidableEq

/-- What a binary64 number is. -/
inductive Class where
  | notANumber
  | infinite
  | finite (m : Magnitude)
  deriving Repr, DecidableEq

/-- The sign bit. -/
def isNegative (x : Float) : Bool := x.toBits.toNat ≥ Nat.pow 2 63

/-- The number without its sign. -/
def classify (x : Float) : Class :=
  let bits : Nat := x.toBits.toNat
  let biased : Nat := bits / Nat.pow 2 52 % Nat.pow 2 11
  let fraction : Nat := bits % Nat.pow 2 52
  if biased = 2047 then
    if fraction = 0 then .infinite else .notANumber
  else if biased = 0 then
    .finite ⟨fraction, -1074, false⟩
  else
    .finite ⟨fraction + Nat.pow 2 52, (biased : Int) - 1075, fraction = 0 && 1 < biased⟩

/-- The magnitude as a fraction of natural numbers, with a positive denominator. -/
def Magnitude.fraction (m : Magnitude) : Nat × Nat :=
  if 0 ≤ m.exponent then (m.mantissa * Nat.pow 2 m.exponent.toNat, 1)
  else (m.mantissa, Nat.pow 2 (-m.exponent).toNat)

/-- The integer part of a finite number; the fraction is cut off, whatever the sign. -/
def integerPart? (x : Float) : Option Int :=
  match classify x with
  | .finite m =>
    let n : Int := (m.fraction.1 / m.fraction.2 : Nat)
    some (if isNegative x then -n else n)
  | _ => none

end EntityGraph.Decimal
