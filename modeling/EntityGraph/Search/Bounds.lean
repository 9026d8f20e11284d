import EntityGraph.Session.Basic
import EntityGraph.Settings.Basic
/-!
How much a search may ask of the graph.

* `Bounds`: the number of rows returned when none is asked for, and the most rows and hops that a
  search gets.
* `boundedLimit`, `boundedHops`: what is asked for has to be a positive integer, and is cut down to
  the bound with a warning.
-/

namespace EntityGraph.Search

/-- The bounds of searches. -/
structure Bounds where
  defaultLimit : Value := .int 50
  maxLimit : Int := 500
  maxHops : Int := 4
  deriving Repr, Inhabited

/-- The bounds that the settings ask for. -/
def Bounds.ofSettings (s : Settings) : Bounds :=
  ⟨.int s.queryDefaultLimit, s.queryMaxLimit, s.relatedMaxHops⟩

/-- The logger of searches. -/
def searchLog : String := "podgraph.query.search"

/-- A positive integer, cut down to a bound. -/
def bounded (name title : String) (most : Int) (asked : Value) : Action Int := do
  let n ← Action.ofExcept ((positive name asked).mapError .request)
  if most < n then
    Action.log .warning searchLog
      (title ++ " " ++ toString n ++ " capped to " ++ toString most)
    return most
  else return n

/-- The number of rows that a search gets. -/
def Bounds.limit (b : Bounds) (asked : Value) : Action Int :=
  bounded "limit" "Limit" b.maxLimit asked

/-- The number of hops that a search gets. -/
def Bounds.hops (b : Bounds) (asked : Value) : Action Int :=
  bounded "max_hops" "Hop count" b.maxHops asked

end EntityGraph.Search
