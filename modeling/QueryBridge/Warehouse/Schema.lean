import QueryBridge.Json.Basic
import QueryBridge.Warehouse.Backend

set_option autoImplicit false

/-! The columns of all tables of a warehouse, found by the same walk over every kind of session: forget
what is cached, list the tables, list the columns of each. The first failure ends the walk. -/

namespace QueryBridge

structure TableName where
  catalog : String
  schema : String
  name : String
  deriving DecidableEq, Repr

/-- A column as its warehouse lists it; ordinals start at 1. -/
structure SourceColumn where
  name : String
  ordinal : UInt32
  nullable : Bool
  dataType : String
  deriving DecidableEq, Repr

/-- A column as clients see it. The three names of its table are quoted. -/
structure ColumnListing where
  catalog : String
  schema : String
  table : String
  column : SourceColumn
  deriving DecidableEq, Repr

def ColumnListing.toJson (l : ColumnListing) : Json :=
  .record [("table_catalog", .string l.catalog), ("table_schema", .string l.schema),
    ("table_name", .string l.table), ("column_name", .string l.column.name),
    ("ordinal_position", .int l.column.ordinal.toNat), ("is_nullable", .bool l.column.nullable),
    ("data_type", .string l.column.dataType)]

/-- A name between double quotes, as it is. -/
def enquote (name : String) : String := "\"" ++ name ++ "\""

def TableName.listing (t : TableName) (c : SourceColumn) : ColumnListing :=
  ⟨enquote t.catalog, enquote t.schema, enquote t.name, c⟩

structure CatalogSession (m : Type → Type) where
  forget : m Unit
  tables : m (List TableName)
  columns : TableName → m (List SourceColumn)

namespace CatalogSession

variable {m : Type → Type} [Monad m]

def listTables (session : CatalogSession m) : List TableName → m (List ColumnListing)
  | [] => return []
  | t :: rest => do
    let columns ← session.columns t
    let others ← session.listTables rest
    return columns.map t.listing ++ others

def listColumns (session : CatalogSession m) : m (List ColumnListing) := do
  session.forget
  session.listTables (← session.tables)

end CatalogSession

end QueryBridge
