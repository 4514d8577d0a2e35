import QueryBridge.Store.Database
import QueryBridge.Text.Pattern

set_option autoImplicit false

namespace QueryBridge.Store

inductive ObjectKind where
  | table | index | view | trigger
  deriving DecidableEq, Repr

structure CatalogueEntry where
  kind : ObjectKind
  name : String
  deriving DecidableEq, Repr

/-- A column as the engine lists it; places count from 0. -/
structure ColumnEntry where
  place : Nat
  column : ColumnDefinition
  deriving DecidableEq, Repr

structure Catalogue where
  entries : List CatalogueEntry
  columns : String → List ColumnEntry

namespace Catalogue

/-- Which tables are not listed: those whose name matches the pattern of the engine's own. -/
def hiddenPattern : String := "sqlite_%"

def isListed (e : CatalogueEntry) : Bool := e.kind = .table && !Text.matchesPattern hiddenPattern e.name

def tableNames (k : Catalogue) : List String := ((k.entries.filter isListed).map (·.name)).mergeSort

def tableColumns (k : Catalogue) (table : String) : List ColumnEntry :=
  (k.columns table).mergeSort fun a b => a.place ≤ b.place

end Catalogue

def placed (columns : List ColumnDefinition) : List ColumnEntry := columns.zipIdx.map fun c => ⟨c.2, c.1⟩

def Database.catalogue (d : Database) : Catalogue where
  entries := d.tables.map fun t => ⟨.table, t.name⟩
  columns name := ((d.table? name).map fun t => placed t.columns).getD []

end QueryBridge.Store
