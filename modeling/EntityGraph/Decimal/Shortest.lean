import EntityGraph.Decimal.Binary64
/-!
The shortest decimal that reads back as a given binary64 number.

* `digitsAt`: the better of the two neighbours of a value on the grid of decimals with a given last
  place, when it lies among the reals that round to the value.
* `shortest`: the digits with the fewest places, as an integer and a power of ten.
* `shortestText`: positional for exponents from -4 to 15, with `.0` on whole numbers, and in
  scientific notation with at least two exponent digits otherwise.
-/

namespace EntityGraph.Decimal

/-- A positive value together with the interval of reals that round to it, over one denominator. -/
structure Interval where
  low : Nat
  value : Nat
  high : Nat
  den : Nat
  /-- Whether the two ends round to the value themselves. -/
  closed : Bool

/-- The reals that round to a magnitude: half a gap on each side, ends included for even
mantissas. -/
def Magnitude.interval (m : Magnitude) : Interval :=
  let scale := if 0 ≤ m.exponent then Nat.pow 2 m.exponent.toNat else 1
  let den := if 0 ≤ m.exponent then 4 else 4 * Nat.pow 2 (-m.exponent).toNat
  { low := (4 * m.mantissa - (if m.narrowBelow then 1 else 2)) * scale
    value := 4 * m.mantissa * scale
    high := (4 * m.mantissa + 2) * scale
    den := den
    closed := m.mantissa % 2 = 0 }

/-- The best decimal `d * 10 ^ place` inside the interval, of the two next to the value. -/
def digitsAt (i : Interval) (place : Int) : Option Nat :=
  -- everything is scaled so that the grid has step `unit`
  let up := if place < 0 then Nat.pow 10 (-place).toNat else 1
  let unit := (if 0 ≤ place then Nat.pow 10 place.toNat else 1) * i.den
  let value := i.value * up
  let low := i.low * up
  let high := i.high * up
  let inside (n : Nat) : Bool :=
    if i.closed then low ≤ n && n ≤ high else low < n && n < high
  let below := value / unit
  let above := below + 1
  let nearBelow := value - below * unit
  let nearAbove := above * unit - value
  match 0 < below && inside (below * unit), inside (above * unit) with
  | true, true =>
    if nearBelow < nearAbove then some below
    else if nearAbove < nearBelow then some above
    else some (if below % 2 = 0 then below else above)
  | true, false => some below
  | false, true => some above
  | false, false => none

/-- The exponent of the leading decimal digit: the largest `e` with `10 ^ e` at most the value. -/
def leadingPlace (i : Interval) : Int :=
  if i.den ≤ i.value then ((Nat.toDigits 10 (i.value / i.den)).length : Int) - 1
  else
    -- the least `k` for which the value reaches `10 ^ -k`
    let reached (k : Nat) : Bool := i.den ≤ i.value * Nat.pow 10 k
    Int.neg (((List.range 400).find? reached).getD 0)

/-- The decimal with the fewest digits that reads back: an integer and the power of ten it is
multiplied by. -/
def shortest (i : Interval) : Nat × Int :=
  let lead := leadingPlace i
  let found := (List.range 18).findSome? fun (n : Nat) =>
    (digitsAt i (lead - n)).map fun d => (d, lead - (n : Int))
  found.getD (0, 0)

/-- Drop the zeros at the end of a run of digits. -/
def trimZeros (ds : List Char) : List Char := (ds.reverse.dropWhile (· == '0')).reverse

/-- Digits `d₁d₂…` standing for `d₁.d₂… * 10 ^ exponent`, written out. -/
def layout (digits : List Char) (exponent : Int) : String :=
  if -4 ≤ exponent ∧ exponent < 16 then
    if exponent < 0 then
      "0." ++ String.ofList (List.replicate (-exponent - 1).toNat '0' ++ digits)
    else
      let whole := digits.take (exponent.toNat + 1)
      let padded := whole ++ List.replicate (exponent.toNat + 1 - whole.length) '0'
      let rest := digits.drop (exponent.toNat + 1)
      String.ofList padded ++ "." ++ (if rest.isEmpty then "0" else String.ofList rest)
  else
    let power := (Nat.toDigits 10 exponent.natAbs)
    let power := if power.length < 2 then '0' :: power else power
    let rest := digits.drop 1
    String.ofList (digits.take 1) ++ (if rest.isEmpty then "" else "." ++ String.ofList rest)
      ++ "e" ++ (if exponent < 0 then "-" else "+") ++ String.ofList power

/-- The shortest text that reads back as the number. -/
def shortestText (x : Float) : String :=
  match classify x with
  | .notANumber => "nan"
  | .infinite => if isNegative x then "-inf" else "inf"
  | .finite m =>
    let sign := if isNegative x then "-" else ""
    if m.mantissa = 0 then sign ++ "0.0"
    else
      let (d, place) := shortest m.interval
      let ds := Nat.toDigits 10 d
      sign ++ layout (trimZeros ds) (place + (ds.length : Int) - 1)

end EntityGraph.Decimal
