import QueryBridge.Files.Tree
import QueryBridge.Settings.Basic
import QueryBridge.Store.Catalogue
import QueryBridge.Store.Document
import QueryBridge.Store.Execution
import QueryBridge.Store.Reader
import QueryBridge.Warehouse.Records
import QueryBridge.Warehouse.Schema
import QueryBridge.Warehouse.TypeTable

set_option autoImplicit false

namespace QueryBridge

open Store

structure SqliteConnector where
  path : String
  /-- Reported as the catalog of every table. -/
  catalog : String
  deriving DecidableEq, Repr

namespace SqliteConnector

/-- Each operation on this path has an empty database of its own. -/
def inMemory : String := ":memory:"

def isInMemory (c : SqliteConnector) : Bool := c.path = inMemory || c.path.isEmpty

variable {m : Type → Type} [Monad m]

def openDatabase (c : SqliteConnector) (files : FileAccess m) : m (Except StoreError Database) := do
  if c.isInMemory then return .ok .empty else
  match ← files.read c.path with
  | .ok text => return Database.ofText text
  | .error .missing =>
    match ← files.write c.path "" with
    | .ok () => return .ok .empty
    | .error _ => return .error .unopened
  | .error _ => return .error .unopened

def save (c : SqliteConnector) (files : FileAccess m) (d : Database) : m Unit := do
  if !c.isInMemory then
    let _ ← files.write c.path d.text

def report {α : Type} (operation : String) (r : Except StoreError α) : Except WarehouseError α :=
  r.mapError fun e => .failed operation e.message

def prepareFirst (d : Database) (sql : String) (parameters : List Cell) : Except StoreError (Option Prepared) := do
  match statementsOf sql with
  | [] => if parameters.isEmpty then return none else throw (.parameterCount parameters.length 0)
  | first :: _ =>
    let prepared ← (← readStatement first).prepare d
    let expected := parameterCount first
    if parameters.length ≠ expected then throw (.parameterCount parameters.length expected)
    return some prepared

def resultColumns (p : Option Prepared) : Except WarehouseError (List Column) :=
  ((p.map Prepared.columns).getD []).mapM fun c => do
    return ⟨c.name, ← Backend.sqlite.types.scalar c.type⟩

def describe (c : SqliteConnector) (files : FileAccess m) (sql : String) (parameters : List Cell) :
    m (Except WarehouseError (List Column)) := do
  let opened ← c.openDatabase files
  return do
    let prepared ← report "describe" (do prepareFirst (← opened) sql parameters)
    resultColumns prepared

/-- What running the first statement yields, and the database after it. A text without statement fails as its first row. -/
def runFirst (d : Database) (parameters : List Cell) : Option Prepared → List RowResult × Database
  | some p => p.run d parameters
  | none => ([.error .noStatement], d)

/-- The rows of a statement. Whatever it changes is changed even if no row is asked for. -/
def query (c : SqliteConnector) (files : FileAccess m) (sql : String) (parameters : List Cell) :
    m (Except WarehouseError RecordStream) := do
  let opened ← c.openDatabase files
  match report "query" (do
    let d ← opened
    return (d, ← prepareFirst d sql parameters)) with
  | .error e => return .error e
  | .ok (d, prepared) =>
    match resultColumns prepared with
    | .error e => return .error e
    | .ok columns =>
      let (rows, after) := runFirst d parameters prepared
      c.save files after
      return .ok (.start columns (.ofRows (rows.map (report "query"))) .armed)

/-- Runs statements in order, each up to its first row, until one fails. -/
def runScript (d : Database) : List (List Lexeme) → Except StoreError Unit × Database
  | [] => (.ok (), d)
  | first :: rest =>
    match do (← readStatement first).prepare d with
    | .error e => (.error e, d)
    | .ok prepared =>
      let (rows, after) := prepared.run d []
      match rows.head? with
      | some (.error e) => (.error e, after)
      | _ => runScript after rest

def execute (c : SqliteConnector) (files : FileAccess m) (sql : String) : m (Except WarehouseError Unit) := do
  match ← c.openDatabase files with
  | .error e => return report "execute" (.error e)
  | .ok d =>
    let (result, after) := runScript d (statementsOf sql)
    c.save files after
    return report "execute" result

def sourceColumn (e : ColumnEntry) : SourceColumn :=
  ⟨e.column.name, (e.place + 1).toUInt32, !e.column.notNull, e.column.type⟩

def session (c : SqliteConnector) (k : Catalogue) : CatalogSession (Except WarehouseError) where
  forget := .ok ()
  tables := .ok (k.tableNames.map fun name => ⟨c.catalog, mainName, name⟩)
  columns t := .ok ((k.tableColumns t.name).map sourceColumn)

def schemaOf (c : SqliteConnector) (opened : Except StoreError Catalogue) :
    Except WarehouseError (List ColumnListing) := do
  (c.session (← report "get_schema" opened)).listColumns

def schema (c : SqliteConnector) (files : FileAccess m) : m (Except WarehouseError (List ColumnListing)) := do
  let opened ← c.openDatabase files
  return c.schemaOf (opened.map Database.catalogue)

end SqliteConnector

def Settings.connector? (env : Environment) (kind : Backend) (s : Settings) :
    Except WarehouseError (Option SqliteConnector) :=
  match kind with
  | .sqlite => do
    let path ← (s.sqlitePath env).mapError fun e => .failed "connect" e.message
    return some ⟨path, s.sqlite.catalog⟩
  | _ => .ok none

end QueryBridge
