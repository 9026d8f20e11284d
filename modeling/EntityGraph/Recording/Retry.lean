import EntityGraph.Decimal.Fixed
import EntityGraph.Session.Basic
import EntityGraph.Settings.Basic
/-!
Trying an operation again.

* `RetryPolicy`: how often, after what delays, and after which failures.
* `retrying`: tries an operation until it succeeds, fails for good, or the retries are used up. Only
  failures that are worth it are followed by another attempt.
-/

namespace EntityGraph

/-- How an operation is tried again. -/
structure RetryPolicy where
  /-- The number of retries after the first attempt. -/
  maxRetries : Int := 3
  backoff : Backoff := {}
  /-- Whether a failure is worth another attempt. Failures of the graph are, unless something else is
  said. -/
  retries : Failure → Bool := Failure.isOf [.graph]
  deriving Inhabited

namespace RetryPolicy

/-- The policy that the settings ask for. -/
def ofSettings (s : Settings) : RetryPolicy :=
  { maxRetries := s.ingestMaxRetries, backoff := { base := s.ingestRetryBaseDelay } }

/-- The logger of retries. -/
def logger : String := "podgraph.pipeline.retry"

/-- What is said before another attempt; `done` attempts have failed. -/
def notice (p : RetryPolicy) (operation : String) (e : Failure) (done : Nat) (seconds : Float) :
    String :=
  "Operation '" ++ operation ++ "' failed: " ++ e.message ++ " (attempt " ++ toString done ++ "/"
    ++ toString (p.maxRetries + 1) ++ "), retrying in " ++ Decimal.fixedText 1 seconds ++ "s"

variable {α : Type}

/-- Try an operation again after `done` failed attempts, at most `left` more times. There is a random
draw for the delay before every retry. -/
def attempts (p : RetryPolicy) (draws : Nat → Float) (operation : String)
    (attempt : Nat → Action α) : (left done : Nat) → Action α
  | left, done => fun s =>
    match (do Action.note (.attempted operation); attempt done : Action α) s with
    | (.ok a, s) => (.ok a, s)
    | (.error e, s) =>
      if p.retries e then
        match left with
        | 0 => (.error (.exhausted operation (done + 1) e), s)
        | left + 1 =>
          match p.backoff.delay (draws done) done with
          | .error d => (.error (.delay d), s)
          | .ok seconds =>
            (do
              Action.log .warning logger (p.notice operation e (done + 1) seconds)
              Action.wait seconds
              attempts p draws operation attempt left (done + 1) : Action α) s
      else (.error e, s)

end RetryPolicy

/-- Try an operation as often as the policy allows. Attempts and retries are numbered from 0. -/
def retrying {α : Type} (p : RetryPolicy) (draws : Nat → Float) (operation : String)
    (attempt : Nat → Action α) : Action α :=
  p.attempts draws operation attempt p.maxRetries.toNat 0

end EntityGraph
