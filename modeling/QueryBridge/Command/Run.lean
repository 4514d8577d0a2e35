import QueryBridge.Command.Invocation
import QueryBridge.Manifest.Document
import QueryBridge.Materialized.Selector
import QueryBridge.Settings.Document
import QueryBridge.Store.Connector
import QueryBridge.Translation

set_option autoImplicit false

namespace QueryBridge

structure Host (m : Type → Type) where
  environment : Environment
  files : FileAccess m
  print : String → m Unit
  complain : String → m Unit

inductive ExitCode where
  | success | failure | misuse
  deriving DecidableEq, Repr

def ExitCode.number : ExitCode → Nat
  | success => 0
  | failure => 1
  | misuse => 2

def versionText : String := "strata 0.1.0"

namespace Command

variable {m : Type → Type} [Monad m] (host : Host m)

def loadSettings (file : Option String) : m (Except SettingsError Settings) :=
  match file with
  | some path => Settings.ofFile host.files path
  | none => Settings.load host.files host.environment

def attempt {α ε : Type} (lead : String) (message : ε → String) (x : m (Except ε α)) : ExceptT String m α :=
  ExceptT.mk do return (← x).mapError fun e => lead ++ message e

def readSql (argument : String) : ExceptT String m String :=
  match argument.toList with
  | '@' :: path => do
    let path := String.ofList path
    attempt s!"Error reading file '{path}': " FileFault.message (host.files.read path)
  | _ => return argument

def loadManifest (file : Option String) : ExceptT String m Manifest :=
  match file with
  | none => return .empty
  | some path => do
    attempt s!"Error loading manifest '{path}': " ManifestError.message do
      match ← host.files.read path with
      | .ok text => return Manifest.read text
      | .error fault => return .error (.unread fault.message)

def connect (settings : Settings) : ExceptT String m SqliteConnector :=
  match settings.connector? host.environment settings.backend with
  | .ok (some connector) => return connector
  | .ok none => throw s!"No connector available for backend '{settings.backend.name}'"
  | .error e => throw ("Connection error: " ++ e.message)

def printRows : List (Except WarehouseError Row) → ExceptT String m Unit
  | [] => return ()
  | .ok row :: rest => do
    host.print (Row.toJson row).render
    printRows rest
  | .error e :: _ => throw ("Query error: " ++ e.message)

def cacheHost (file : Option String) : CacheHost m SqliteConnector where
  settings := loadSettings host file
  connect kind settings := return settings.connector? host.environment kind
  execute connector sql := connector.execute host.files sql

def perform (file : Option String) (settings : Settings) : Command → ExceptT String m Unit
  | compile sql backend manifest source rewrites => do
    let text ← readSql host sql
    let manifest ← loadManifest host manifest
    let compiler : Compiler := ⟨manifest, backend.getD settings.backend, source, rewrites⟩
    let t ← attempt "Compilation error: " TranslationError.message (pure (compiler.compile text))
    host.print t.sql
  | transpile sql source target => do
    let text ← readSql host sql
    let t ← attempt "Transpile error: " TranslationError.message (pure (Translation.between source target text))
    host.print t.sql
  | schema => do
    let connector ← connect host settings
    let columns ← attempt "Schema error: " WarehouseError.message (connector.schema host.files)
    host.print (Json.list (columns.map ColumnListing.toJson)).pretty
  | describe sql => do
    let connector ← connect host settings
    let columns ← attempt "Describe error: " WarehouseError.message (connector.describe host.files sql [])
    host.print (Json.list (columns.map Column.toJson)).pretty
  | query sql => do
    let connector ← connect host settings
    let stream ← attempt "Query error: " WarehouseError.message (connector.query host.files sql [])
    host.print ("\t".intercalate (stream.columns.map (·.name)))
    printRows host stream.drain.1
  | cache name sql catalog schemaName => do
    let surroundings := cacheHost host file
    let selector ← attempt "Cache error: " CacheError.message (CacheSelector.start surroundings)
    let made ← attempt "Cache error: " CacheError.message
      (selector.current.delegate.materialize surroundings catalog schemaName name sql)
    match made with
    | some location => host.print location.quoted
    | none => host.print s!"Caching is disabled for backend '{selector.kind.name}'"

end Command

def Invocation.perform {m : Type → Type} [Monad m] (host : Host m) (i : Invocation) : ExceptT String m Unit := do
  let settings ← Command.attempt "Configuration error: " SettingsError.message
    (Command.loadSettings host i.settingsFile)
  Command.perform host i.settingsFile settings i.command

def Invocation.run {m : Type → Type} [Monad m] (host : Host m) (i : Invocation) : m ExitCode := do
  match ← (i.perform host).run with
  | .ok () => return .success
  | .error complaint =>
    host.complain complaint
    return .failure

def runCommandLine {m : Type → Type} [Monad m] (host : Host m) (arguments : List String) : m ExitCode := do
  match Invocation.read arguments with
  | .ok i => i.run host
  | .error (.final _) =>
    host.print versionText
    return .success
  | .error (.usage e) =>
    host.complain ("error: " ++ e.message)
    return .misuse

end QueryBridge
