import EntityGraph.Checked.Read
import EntityGraph.Text.Case
/-!
Settings of the whole system.

* `Settings`: every setting with its usual value.
* `Settings.Source`: explicit values, which win, and environment variables, whose names may be in
  any case.
* `Settings.load`: reads all settings, reporting every field that is wrong; only when none is, the
  settings are checked against each other.
-/

namespace EntityGraph

/-- The settings of the system. -/
structure Settings where
  graphStoreType : String := "memory"
  gremlinEndpoint : String := ""
  gremlinDatabase : String := ""
  gremlinContainer : String := ""
  gremlinKey : String := ""
  gremlinTraversalSource : String := "g"
  gremlinPoolSize : Int := 4
  gremlinTimeout : Float := 30.0
  confidenceThreshold : Float := 0.7
  persistCoOccurs : Bool := false
  writeConcurrency : Int := 8
  queryDefaultLimit : Int := 50
  queryMaxLimit : Int := 500
  relatedMaxHops : Int := 4
  languageProvider : String := "none"
  languageEndpoint : String := ""
  languageKey : String := ""
  languageCode : String := "en"
  ingestMaxRetries : Int := 3
  ingestRetryBaseDelay : Float := 1.0
  logLevel : String := "INFO"
  logFormat : String := "json"
  logFile : Option String := none
  logRotation : String := "10MB"
  logRetention : Int := 30
  deriving Repr, Inhabited

/-- Two settings that do not go together. -/
inductive Inconsistency where
  /-- A remote graph was chosen, but these settings are empty. -/
  | remoteGraphIncomplete (missing : List String)
  | languageIncomplete
  | limitAboveMaximum
  deriving DecidableEq, Repr

/-- What an inconsistency says. -/
def Inconsistency.message : Inconsistency → String
  | remoteGraphIncomplete missing =>
    "GRAPH_STORE_TYPE=gremlin requires " ++ ", ".intercalate missing
  | languageIncomplete =>
    "LANGUAGE_PROVIDER=azure requires LANGUAGE_ENDPOINT and LANGUAGE_KEY"
  | limitAboveMaximum => "QUERY_DEFAULT_LIMIT must be <= QUERY_MAX_LIMIT"

/-- Why settings are refused. -/
inductive SettingsError where
  | invalid (issues : List Issue)
  | inconsistent (problems : List Inconsistency)
  deriving Repr

namespace Settings

/-- The settings by name, as they are configured. -/
def toFields (s : Settings) : Fields :=
  [
    ("graph_store_type", .str s.graphStoreType),
    ("gremlin_endpoint", .str s.gremlinEndpoint),
    ("gremlin_database", .str s.gremlinDatabase),
    ("gremlin_container", .str s.gremlinContainer),
    ("gremlin_key", .str s.gremlinKey),
    ("gremlin_traversal_source", .str s.gremlinTraversalSource),
    ("gremlin_pool_size", .int s.gremlinPoolSize),
    ("gremlin_timeout_s", .float s.gremlinTimeout),
    ("confidence_threshold", .float s.confidenceThreshold),
    ("persist_co_occurs", .bool s.persistCoOccurs),
    ("write_concurrency", .int s.writeConcurrency),
    ("query_default_limit", .int s.queryDefaultLimit),
    ("query_max_limit", .int s.queryMaxLimit),
    ("related_max_hops", .int s.relatedMaxHops),
    ("language_provider", .str s.languageProvider),
    ("language_endpoint", .str s.languageEndpoint),
    ("language_key", .str s.languageKey),
    ("language_code", .str s.languageCode),
    ("ingest_max_retries", .int s.ingestMaxRetries),
    ("ingest_retry_base_delay_s", .float s.ingestRetryBaseDelay),
    ("log_level", .str s.logLevel),
    ("log_format", .str s.logFormat),
    ("log_file", .ofText? s.logFile),
    ("log_rotation", .str s.logRotation),
    ("log_retention", .int s.logRetention)
  ]

/-- The user name under which a remote graph is addressed. -/
def remoteUser (database container : String) : String :=
  "/dbs/" ++ database ++ "/colls/" ++ container

/-- The user name for the configured remote graph. -/
def gremlinUsername (s : Settings) : String := remoteUser s.gremlinDatabase s.gremlinContainer

/-! ### Loading -/

/-- Where settings come from. -/
structure Source where
  overrides : Fields
  environment : List (String × String)
  deriving Repr, Inhabited

namespace Source

/-- The environment variable with a name in any case; of several the last one counts. -/
def environmentValue? (s : Source) (name : String) : Option String :=
  (s.environment.reverse.find? fun (k, _) => Text.lower k = name).map Prod.snd

/-- The configured value of a setting. -/
def value? (s : Source) (name : String) : Option Value :=
  (s.overrides.get? name).or ((s.environmentValue? name).map .str)

/-- A setting, read from its configured value if there is one. -/
def setting {α : Type} (s : Source) (name : String) (usual : α) (read : Value → Checked α) :
    Checked α :=
  match s.value? name with
  | some v => (read v).under (.field name)
  | none => .valid usual

end Source

open Checked

/-- A number from 0 to 1. -/
def threshold (v : Value) : Checked Float :=
  (number v).andThen fun x =>
    if 0.0 ≤ x ∧ x ≤ 1.0 then valid x
    else complain (.rule "confidence_threshold must be within [0, 1]")

/-- An integer from 1 on. -/
def positiveInteger (v : Value) : Checked Int :=
  (integer v).andThen fun n =>
    if n < 1 then complain (.rule "value must be >= 1") else valid n

/-- An integer from 0 on. -/
def retries (v : Value) : Checked Int :=
  (integer v).andThen fun n =>
    if n < 0 then complain (.rule "ingest_max_retries must be >= 0") else valid n

/-- All settings, each one checked for itself. -/
def read (s : Source) : Checked Settings :=
  let usual : Settings := {}
  Settings.mk <$> s.setting "graph_store_type" usual.graphStoreType (choice ["gremlin", "memory"])
    <*> s.setting "gremlin_endpoint" usual.gremlinEndpoint text
    <*> s.setting "gremlin_database" usual.gremlinDatabase text
    <*> s.setting "gremlin_container" usual.gremlinContainer text
    <*> s.setting "gremlin_key" usual.gremlinKey text
    <*> s.setting "gremlin_traversal_source" usual.gremlinTraversalSource text
    <*> s.setting "gremlin_pool_size" usual.gremlinPoolSize positiveInteger
    <*> s.setting "gremlin_timeout_s" usual.gremlinTimeout number
    <*> s.setting "confidence_threshold" usual.confidenceThreshold threshold
    <*> s.setting "persist_co_occurs" usual.persistCoOccurs truth
    <*> s.setting "write_concurrency" usual.writeConcurrency positiveInteger
    <*> s.setting "query_default_limit" usual.queryDefaultLimit positiveInteger
    <*> s.setting "query_max_limit" usual.queryMaxLimit positiveInteger
    <*> s.setting "related_max_hops" usual.relatedMaxHops positiveInteger
    <*> s.setting "language_provider" usual.languageProvider (choice ["none", "azure"])
    <*> s.setting "language_endpoint" usual.languageEndpoint text
    <*> s.setting "language_key" usual.languageKey text
    <*> s.setting "language_code" usual.languageCode text
    <*> s.setting "ingest_max_retries" usual.ingestMaxRetries retries
    <*> s.setting "ingest_retry_base_delay_s" usual.ingestRetryBaseDelay number
    <*> s.setting "log_level" usual.logLevel (choice ["DEBUG", "INFO", "WARNING", "ERROR"])
    <*> s.setting "log_format" usual.logFormat (choice ["json", "text"])
    <*> s.setting "log_file" usual.logFile (optional path)
    <*> s.setting "log_rotation" usual.logRotation text
    <*> s.setting "log_retention" usual.logRetention integer

/-- The settings of a remote graph that are empty, by the names of their variables. -/
def missingForRemoteGraph (s : Settings) : List String :=
  ([("GREMLIN_ENDPOINT", s.gremlinEndpoint), ("GREMLIN_DATABASE", s.gremlinDatabase),
    ("GREMLIN_CONTAINER", s.gremlinContainer), ("GREMLIN_KEY", s.gremlinKey)].filter
      fun (_, v) => v.isEmpty).map Prod.fst

/-- The settings that do not go together. -/
def inconsistencies (s : Settings) : List Inconsistency :=
  let missing := s.missingForRemoteGraph
  (if s.graphStoreType = "gremlin" ∧ missing ≠ [] then [.remoteGraphIncomplete missing] else [])
    ++ (if s.languageProvider = "azure" ∧ (s.languageEndpoint.isEmpty ∨ s.languageKey.isEmpty)
      then [.languageIncomplete] else [])
    ++ (if s.queryMaxLimit < s.queryDefaultLimit then [.limitAboveMaximum] else [])

/-- The settings of a source, if they are valid and consistent. -/
def load (source : Source) : Except SettingsError Settings :=
  match read source with
  | .invalid issues => .error (.invalid issues)
  | .valid s =>
    if s.inconsistencies.isEmpty then .ok s else .error (.inconsistent s.inconsistencies)

end Settings

/-- What a refusal of settings that do not go together says. -/
def SettingsError.message : SettingsError → String
  | invalid _ => ""
  | inconsistent problems => "; ".intercalate (problems.map Inconsistency.message)

end EntityGraph
