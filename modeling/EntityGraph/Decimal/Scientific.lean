import EntityGraph.Decimal.Fixed
import EntityGraph.Decimal.Shortest
/-!
Numbers written with a fixed count of significant digits.

* `significant`: the digits nearest to a magnitude, with the exponent of the first one.
* `powerText`: an exponent with a sign and at least two digits.
* `scientificText`: one digit before the point and a fixed count behind it.
* `compactText`: positional or scientific, whichever suits the size, and without zeros at the end.
-/

namespace EntityGraph.Decimal

/-- The `count` digits nearest to a magnitude, and the exponent of the first one. A tie goes to the
even neighbour. -/
def significant (count : Nat) (m : Magnitude) : List Char × Int :=
  if m.mantissa = 0 then (List.replicate count '0', 0)
  else
    let lead := leadingPlace m.interval
    let (num, den) := m.fraction
    let up := (count : Int) - 1 - lead
    let rounded := if 0 ≤ up then roundDiv (num * Nat.pow 10 up.toNat) den
      else roundDiv num (den * Nat.pow 10 (-up).toNat)
    if rounded < Nat.pow 10 count then (Nat.toDigits 10 rounded, lead)
    else (Nat.toDigits 10 (rounded / 10), lead + 1)

/-- An exponent with a sign and at least two digits. -/
def powerText (exponent : Int) : String :=
  let ds := Nat.toDigits 10 exponent.natAbs
  (if exponent < 0 then "e-" else "e+") ++ String.ofList (if ds.length < 2 then '0' :: ds else ds)

/-- Digits before and behind a point; the point is left out when nothing follows, unless it is to be
kept. -/
def pointed (keepPoint : Bool) (whole part : List Char) : String :=
  String.ofList whole ++ (if part.isEmpty && !keepPoint then "" else "." ++ String.ofList part)

/-- A magnitude with one digit before the point and `places` behind it. -/
def scientificText (places : Nat) (keepPoint : Bool) (m : Magnitude) : String :=
  let (ds, exponent) := significant (places + 1) m
  pointed keepPoint (ds.take 1) (ds.drop 1) ++ powerText exponent

/-- A magnitude with `count` significant digits, positional unless its exponent is below -4 or not
below the count. Zeros at the end are dropped unless they are to be kept. -/
def compactText (count : Nat) (keepZeros : Bool) (m : Magnitude) : String :=
  let count := max 1 count
  let (ds, exponent) := significant count m
  let trim (part : List Char) := if keepZeros then part else trimZeros part
  if exponent < -4 ∨ (count : Int) ≤ exponent then
    pointed keepZeros (ds.take 1) (trim (ds.drop 1)) ++ powerText exponent
  else if exponent < 0 then
    pointed keepZeros ['0'] (trim (List.replicate (-exponent - 1).toNat '0' ++ ds))
  else
    let whole := exponent.toNat + 1
    pointed keepZeros (ds.take whole) (trim (ds.drop whole))

end EntityGraph.Decimal
