/-!
Delays between the attempts of an operation.

* `Backoff`: the first delay, the factor by which delays grow, and whether they are spread by a
  random draw.
* `Backoff.delay`: the delay before a retry, or why there is none.
-/

namespace EntityGraph

/-- How delays grow. -/
structure Backoff where
  base : Float := 1.0
  factor : Float := 2.0
  jitter : Bool := true
  deriving Repr, Inhabited

/-- Why a delay cannot be computed. -/
inductive DelayError where
  /-- The power of the factor is beyond the range of binary64 numbers. -/
  | outOfRange
  /-- The number of the retry is beyond the range of binary64 numbers. -/
  | retryTooLarge
  /-- A factor of zero has no negative powers. -/
  | zeroFactor
  deriving DecidableEq, Repr

/-- What an error says. -/
def DelayError.message : DelayError → String
  | outOfRange => "(34, 'Numerical result out of range')"
  | retryTooLarge => "int too large to convert to float"
  | zeroFactor => "0.0 cannot be raised to a negative power"

namespace Backoff

/-- The power of a number by an integer. To the power of zero, anything is one, and so are all powers
of one. -/
def power (x : Float) (n : Int) : Except DelayError Float :=
  let exponent := Float.ofInt n
  if exponent.isInf then .error .retryTooLarge
  else if n = 0 || x == 1.0 then .ok 1.0
  else if x == 0.0 && n < 0 then .error .zeroFactor
  else
    let y := x ^ exponent
    if y.isInf && x.isFinite then .error .outOfRange else .ok y

/-- The delay in seconds before a retry; retries are counted from 0, and `draw` is a number between
0 and 1. -/
def delay (b : Backoff) (draw : Float) (retry : Int) : Except DelayError Float := do
  let grown := b.base * (← power b.factor retry)
  return if b.jitter then grown * (0.5 + draw) else grown

end Backoff

end EntityGraph
