import QueryBridge.Json.Basic
import QueryBridge.Settings.Expansion
import QueryBridge.Warehouse.Backend

set_option autoImplicit false

namespace QueryBridge

structure SqliteSettings where
  /-- May refer to environment variables; `:memory:` is a new database for each connection. -/
  path : String := ":memory:"
  /-- Reported as the catalog of every table. -/
  catalog : String := "memory"
  deriving DecidableEq, Repr

structure PostgresSettings where
  url : Option String := none
  user : Option String := none
  password : Option String := none
  deriving DecidableEq, Repr

structure BigQuerySettings where
  projectId : Option String := none
  location : Option String := none
  credentialsKey : Option String := none
  deriving DecidableEq, Repr

structure CouchbaseSettings where
  jdbcUrl : String := "jdbc:couchbase:"
  user : Option String := none
  password : Option String := none
  server : Option String := none
  n1qlPort : Option String := none
  useSsl : Bool := true
  deriving DecidableEq, Repr

structure LoggingSettings where
  filter : String := "info"
  deriving DecidableEq, Repr

structure Settings where
  backend : Backend := .fallback
  sqlite : SqliteSettings := {}
  postgres : PostgresSettings := {}
  bigquery : BigQuerySettings := {}
  couchbase : CouchbaseSettings := {}
  logging : LoggingSettings := {}
  deriving DecidableEq, Repr

def optionalText : Option String → Json := Json.ofOption .string

namespace Settings

def toJson (s : Settings) : Json :=
  .record [
    ("backend", .string s.backend.name),
    ("sqlite", .record [("path", .string s.sqlite.path), ("catalog", .string s.sqlite.catalog)]),
    ("postgres", .record [("url", optionalText s.postgres.url), ("user", optionalText s.postgres.user),
      ("password", optionalText s.postgres.password)]),
    ("bigquery", .record [("project_id", optionalText s.bigquery.projectId),
      ("location", optionalText s.bigquery.location),
      ("credentials_key", optionalText s.bigquery.credentialsKey)]),
    ("couchbase", .record [("jdbc_url", .string s.couchbase.jdbcUrl),
      ("user", optionalText s.couchbase.user), ("password", optionalText s.couchbase.password),
      ("server", optionalText s.couchbase.server), ("n1ql_port", optionalText s.couchbase.n1qlPort),
      ("use_ssl", .bool s.couchbase.useSsl)]),
    ("logging", .record [("filter", .string s.logging.filter)])]

def expandOptional (env : Environment) : Option String → Except SettingsError (Option String)
  | none => .ok none
  | some text => some <$> expand env text

def sqlitePath (s : Settings) (env : Environment) : Except SettingsError String :=
  expand env s.sqlite.path

def postgresPassword (s : Settings) (env : Environment) : Except SettingsError (Option String) :=
  expandOptional env s.postgres.password

def bigqueryCredentials (s : Settings) (env : Environment) : Except SettingsError (Option String) :=
  expandOptional env s.bigquery.credentialsKey

def couchbasePassword (s : Settings) (env : Environment) : Except SettingsError (Option String) :=
  expandOptional env s.couchbase.password

end Settings

def logVariable : String := "STRATA_LOG"

def logFilter (env : Environment) (configured : String) : String :=
  match env logVariable with
  | some value => if (Text.trim value).isEmpty then configured else value
  | none => configured

def Backend.ofName (s : String) : Except SettingsError Backend :=
  match Backend.ofName? s with
  | some b => .ok b
  | none => .error (.unsupportedBackend (Text.lower s))

end QueryBridge
