import QueryBridge.Dialect.Catalogue

set_option autoImplicit false

namespace QueryBridge

inductive Backend where
  | bigquery | postgres | couchbase | duckdb | snowflake | sqlite
  deriving DecidableEq, Repr

namespace Backend

def all : List Backend := [bigquery, postgres, couchbase, duckdb, snowflake, sqlite]

def name : Backend → String
  | bigquery => "bigquery"
  | postgres => "postgres"
  | couchbase => "couchbase"
  | duckdb => "duckdb"
  | snowflake => "snowflake"
  | sqlite => "sqlite"

def variantName : Backend → String
  | bigquery => "BigQuery"
  | postgres => "Postgres"
  | couchbase => "Couchbase"
  | duckdb => "DuckDb"
  | snowflake => "Snowflake"
  | sqlite => "Sqlite"

/-- Letter case does not matter, and some backends have short names. -/
def ofName? (s : String) : Option Backend :=
  match Text.lower s with
  | "bigquery" | "bq" => some bigquery
  | "postgres" | "postgresql" | "pg" => some postgres
  | "couchbase" => some couchbase
  | "duckdb" | "duck" => some duckdb
  | "snowflake" => some snowflake
  | "sqlite" => some sqlite
  | _ => none

def wireNames : List (String × Backend) := all.map fun b => (b.name, b)

/-- Couchbase understands the SQL of Postgres. -/
def dialect : Backend → Dialect
  | bigquery => .bigquery
  | postgres | couchbase => .postgres
  | duckdb => .duckdb
  | snowflake => .snowflake
  | sqlite => .sqlite

def fallback : Backend := duckdb

end Backend

inductive WarehouseError where
  | failed (operation cause : String)
  | unsupportedType (backend name : String)
  deriving DecidableEq, Repr

def WarehouseError.message : WarehouseError → String
  | failed operation cause => s!"{operation} failed: {cause}"
  | unsupportedType backend name => s!"Unsupported {backend} type: {name}"

end QueryBridge
