import EntityGraph.Settings.Basic
import EntityGraph.Value.Display
/-!
Which graph engine and which language service the settings ask for.

The settings may have been changed after they were checked, so they are taken by name and as they
are.

* `GraphChoice.select`: a graph in memory or a remote one with its parameters of connection.
* `LanguageParameters.select`: a language service with its parameters.
* `SelectionError`: the settings name nothing that is known.
-/

namespace EntityGraph

/-- Nothing is known under the name in the settings. -/
inductive SelectionError where
  | unknownGraph (given : Value)
  | unknownLanguageProvider (given : Value)
  deriving Repr

/-- What an error says. -/
def SelectionError.message : SelectionError → String
  | unknownGraph given =>
    "Unsupported graph store type: " ++ given.display ++ ". Available: gremlin, memory"
  | unknownLanguageProvider given =>
    "No language client for provider " ++ given.display ++ ". Set LANGUAGE_PROVIDER=azure"

/-- The parameters of a connection to a remote graph, as they were configured. -/
structure RemoteParameters where
  endpoint : Value
  username : Value := .str ""
  password : Value := .str ""
  source : Value := .str "g"
  poolSize : Value := .int 4
  timeout : Value := .float 30.0
  deriving Repr, Inhabited

/-- The graph engine to use. -/
inductive GraphChoice where
  | memory
  | remote (parameters : RemoteParameters)
  deriving Repr

/-- The graph engine that the settings ask for. -/
def GraphChoice.select (settings : Fields) : Except SelectionError GraphChoice :=
  let given := settings.getD "graph_store_type"
  if given.text? = some "memory" then .ok .memory
  else if given.text? = some "gremlin" then
    let user := Settings.remoteUser (settings.getD "gremlin_database").plain
      (settings.getD "gremlin_container").plain
    .ok <| .remote
      { endpoint := settings.getD "gremlin_endpoint"
        username := .str user
        password := settings.getD "gremlin_key"
        source := settings.getD "gremlin_traversal_source"
        poolSize := settings.getD "gremlin_pool_size"
        timeout := settings.getD "gremlin_timeout_s" }
  else .error (.unknownGraph given)

/-- The parameters of a language service, as they were configured. -/
structure LanguageParameters where
  endpoint : Value := .str ""
  key : Value := .str ""
  language : Value := .str "en"
  deriving Repr, Inhabited

/-- The language service that the settings ask for. -/
def LanguageParameters.select (settings : Fields) : Except SelectionError LanguageParameters :=
  let given := settings.getD "language_provider"
  if given.text? = some "azure" then
    .ok ⟨settings.getD "language_endpoint", settings.getD "language_key",
      settings.getD "language_code"⟩
  else .error (.unknownLanguageProvider given)

end EntityGraph
