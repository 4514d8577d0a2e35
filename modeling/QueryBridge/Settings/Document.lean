import QueryBridge.Files.Tree
import QueryBridge.Settings.Basic
import QueryBridge.Toml.Reader

set_option autoImplicit false

/-! Settings are written as TOML. Unknown keys are passed over and missing ones take their defaults; a
value of another kind than its field is an error. A section is a table, or an array of its values in
field order. -/

namespace QueryBridge

def Toml.text : Toml → Except SettingsError String
  | .string s => .ok s
  | _ => .error .unparsable

def Toml.flag : Toml → Except SettingsError Bool
  | .bool b => .ok b
  | _ => .error .unparsable

def Toml.isEmpty : Toml → Bool
  | .array items => items.isEmpty
  | .inlineTable entries | .table _ entries => entries.isEmpty
  | _ => false

/-- A backend is its name, or a table with the name as its one key. -/
def Toml.backend : Toml → Except SettingsError Backend
  | .string s => named s
  | .inlineTable [(name, value)] | .table _ [(name, value)] =>
    if value.isEmpty then named name else .error .unparsable
  | _ => .error .unparsable
where
  named (s : String) : Except SettingsError Backend :=
    match Backend.all.find? (·.name == s) with
    | some b => .ok b
    | none => .error .unparsable

def Toml.fields (names : List String) : Toml → Except SettingsError Entries
  | .table _ entries | .inlineTable entries => .ok entries
  | .array items => .ok (names.zip items)
  | .date => .ok []
  | _ => .error .unparsable

def Toml.Entries.fieldOr {α : Type} (entries : Entries) (name : String) (read : Toml → Except SettingsError α)
    (default : α) : Except SettingsError α :=
  match entries.lookup name with
  | some value => read value
  | none => .ok default

def Toml.Entries.optionalText (entries : Entries) (name : String) : Except SettingsError (Option String) :=
  entries.fieldOr name (fun value => some <$> value.text) none

namespace Settings

open Toml

def readSqlite (t : Toml) : Except SettingsError SqliteSettings := do
  let e ← t.fields ["path", "catalog"]
  let default : SqliteSettings := {}
  return ⟨← e.fieldOr "path" text default.path, ← e.fieldOr "catalog" text default.catalog⟩

def readPostgres (t : Toml) : Except SettingsError PostgresSettings := do
  let e ← t.fields ["url", "user", "password"]
  return ⟨← e.optionalText "url", ← e.optionalText "user", ← e.optionalText "password"⟩

def readBigQuery (t : Toml) : Except SettingsError BigQuerySettings := do
  let e ← t.fields ["project_id", "location", "credentials_key"]
  return ⟨← e.optionalText "project_id", ← e.optionalText "location", ← e.optionalText "credentials_key"⟩

def readCouchbase (t : Toml) : Except SettingsError CouchbaseSettings := do
  let e ← t.fields ["jdbc_url", "user", "password", "server", "n1ql_port", "use_ssl"]
  let default : CouchbaseSettings := {}
  return {
    jdbcUrl := ← e.fieldOr "jdbc_url" text default.jdbcUrl
    user := ← e.optionalText "user"
    password := ← e.optionalText "password"
    server := ← e.optionalText "server"
    n1qlPort := ← e.optionalText "n1ql_port"
    useSsl := ← e.fieldOr "use_ssl" flag default.useSsl }

def readLogging (t : Toml) : Except SettingsError LoggingSettings := do
  let e ← t.fields ["filter"]
  let default : LoggingSettings := {}
  return ⟨← e.fieldOr "filter" text default.filter⟩

def ofEntries (e : Entries) : Except SettingsError Settings := do
  return {
    backend := ← e.fieldOr "backend" Toml.backend .fallback
    sqlite := ← e.fieldOr "sqlite" readSqlite {}
    postgres := ← e.fieldOr "postgres" readPostgres {}
    bigquery := ← e.fieldOr "bigquery" readBigQuery {}
    couchbase := ← e.fieldOr "couchbase" readCouchbase {}
    logging := ← e.fieldOr "logging" readLogging {} }

def read (text : String) : Except SettingsError Settings :=
  match Toml.parse? text with
  | some entries => ofEntries entries
  | none => .error .unparsable

def fileVariable : String := "STRATA_CONFIG"

def localFile : String := "strata.toml"

def joinPath (directory name : String) : String :=
  if directory.endsWith "/" then directory ++ name else directory ++ "/" ++ name

/-- The directory for configuration: an absolute one of its own, else one under the user's home. -/
def configDirectory? (env : Environment) : Option String :=
  match (env "XDG_CONFIG_HOME").filter (·.startsWith "/"), (env "HOME").filter (!·.isEmpty) with
  | some directory, _ => some directory
  | none, some home => some (joinPath home ".config")
  | none, none => none

def userFile? (env : Environment) : Option String :=
  (configDirectory? env).map fun directory => joinPath (joinPath directory "strata") "config.toml"

variable {m : Type → Type} [Monad m]

def ofFile (files : FileAccess m) (path : String) : m (Except SettingsError Settings) := do
  match ← files.read path with
  | .ok text => return read text
  | .error fault => return .error (if fault.isAbsence then .fileNotFound path else .unreadFile fault.message)

/-- The first of the files that exists, else the defaults. -/
def readFirst (files : FileAccess m) : List String → m (Except SettingsError Settings)
  | [] => return .ok {}
  | path :: rest => do
    if ← files.exists? path then ofFile files path else readFirst files rest

def load (files : FileAccess m) (env : Environment) : m (Except SettingsError Settings) :=
  match env fileVariable with
  | some path => ofFile files path
  | none => readFirst files (localFile :: (userFile? env).toList)

end Settings

end QueryBridge
