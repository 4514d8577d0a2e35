import QueryBridge.Materialized.Location
import QueryBridge.Settings.Basic
import QueryBridge.Settings.Expansion
import QueryBridge.Warehouse.Backend

set_option autoImplicit false

namespace QueryBridge

inductive CacheError where
  | withoutTables (backend : Backend)
  | withoutConnector (backend : Backend)
  | foreignLocation (location : String) (backend : Backend)
  | warehouse (cause : WarehouseError)
  | settings (cause : SettingsError)
  deriving DecidableEq, Repr

def CacheError.message : CacheError → String
  | withoutTables b => s!"Cache configuration error: {b.name} does not support SQL cache tables"
  | withoutConnector b => s!"Cache configuration error: no connector available for the {b.name} backend"
  | foreignLocation l b => s!"Cache configuration error: cannot remove {l} through the {b.name} delegate"
  | warehouse cause => "Cache backend error: " ++ cause.message
  | settings cause => "Failed to load settings: " ++ cause.message

structure CacheHost (m : Type → Type) (κ : Type) where
  settings : m (Except SettingsError Settings)
  /-- Nothing if there is no connector for the backend. -/
  connect : Backend → Settings → m (Except WarehouseError (Option κ))
  execute : κ → String → m (Except WarehouseError Unit)

def CacheHost.lift {m : Type → Type} {κ σ : Type} [Monad m] (host : CacheHost m κ) :
    CacheHost (StateT σ m) κ where
  settings := StateT.lift host.settings
  connect kind settings := StateT.lift (host.connect kind settings)
  execute connector sql := StateT.lift (host.execute connector sql)

def Backend.hasCacheTables : Backend → Bool
  | bigquery | postgres | sqlite => true
  | duckdb | snowflake | couchbase => false

inductive CacheDelegate (κ : Type) where
  | disabled (kind : Backend)
  | tables (kind : Backend) (connector : κ)
  deriving DecidableEq, Repr

namespace CacheDelegate

variable {κ : Type}

def kind : CacheDelegate κ → Backend
  | disabled kind | tables kind _ => kind

def throughConnector (kind : Backend) (connector : κ) : Except CacheError (CacheDelegate κ) :=
  if kind.hasCacheTables then .ok (.tables kind connector) else .error (.withoutTables kind)

/-- Where a table of that name is made. Only BigQuery addresses it by the catalog too. -/
def target (kind : Backend) (catalog schema name : String) : Location :=
  match kind with
  | .bigquery => ⟨kind, [catalog, schema, name]⟩
  | _ => ⟨kind, [schema, name]⟩

def creation (l : Location) (statement : String) : String :=
  "CREATE TABLE " ++ l.quoted ++ " AS " ++ statement

def removal (l : Location) : String := "DROP TABLE IF EXISTS " ++ l.quoted

def debugText (d : CacheDelegate κ) : String :=
  (match d with
    | disabled _ => "NoOpCacheDelegate \x7b kind: "
    | tables _ _ => "SqlCacheDelegate \x7b kind: ")
  ++ d.kind.variantName ++ (match d with
    | disabled _ => " \x7d"
    | tables _ _ => ", .. \x7d")

variable {m : Type → Type} [Monad m] (host : CacheHost m κ)

def forBackend (kind : Backend) (settings : Settings) : m (Except CacheError (CacheDelegate κ)) := do
  if !kind.hasCacheTables then return .ok (.disabled kind) else
  match ← host.connect kind settings with
  | .error e => return .error (.warehouse e)
  | .ok none => return .error (.withoutConnector kind)
  | .ok (some connector) => return throughConnector kind connector

/-- Makes a table of a statement's rows; nothing if the backend does not cache. -/
def materialize (d : CacheDelegate κ) (catalog schema name statement : String) :
    m (Except CacheError (Option Location)) := do
  match d with
  | disabled _ => return .ok none
  | tables kind connector =>
    let location := target kind catalog schema name
    match ← host.execute connector (creation location statement) with
    | .ok () => return .ok (some location)
    | .error e => return .error (.warehouse e)

def remove (d : CacheDelegate κ) (location : Location) : m (Except CacheError Unit) := do
  match d with
  | disabled _ => return .ok ()
  | tables kind connector =>
    if location.backend ≠ kind then return .error (.foreignLocation location.text kind) else
    match ← host.execute connector (removal location) with
    | .ok () => return .ok ()
    | .error e => return .error (.warehouse e)

end CacheDelegate

end QueryBridge
