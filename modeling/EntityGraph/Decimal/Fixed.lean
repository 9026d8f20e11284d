import EntityGraph.Decimal.Binary64
/-!
Numbers written with a fixed count of decimal places.

* `roundDiv`: a quotient rounded to the nearest integer, a tie going to the even neighbour.
* `fixedText`: the exact value of a binary64 number, rounded once.
-/

namespace EntityGraph.Decimal

/-- The integer nearest to `num / den`; a tie goes to the even neighbour. -/
def roundDiv (num den : Nat) : Nat :=
  let low := num / den
  let rest := 2 * (num % den)
  if rest < den then low
  else if den < rest then low + 1
  else if low % 2 = 0 then low else low + 1

/-- A number with `places` decimals. -/
def fixedText (places : Nat) (x : Float) : String :=
  match classify x with
  | .notANumber => "nan"
  | .infinite => if isNegative x then "-inf" else "inf"
  | .finite m =>
    let (num, den) := m.fraction
    let scaled := roundDiv (num * Nat.pow 10 places) den
    let whole := toString (scaled / Nat.pow 10 places)
    let part := Nat.toDigits 10 (scaled % Nat.pow 10 places)
    let part := List.replicate (places - part.length) '0' ++ part
    (if isNegative x then "-" else "") ++ whole
      ++ (if places = 0 then "" else "." ++ String.ofList part)

end EntityGraph.Decimal
