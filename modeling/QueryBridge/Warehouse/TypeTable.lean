import QueryBridge.Warehouse.Affinity
import QueryBridge.Warehouse.Backend

set_option autoImplicit false

namespace QueryBridge

structure TypeTable where
  backend : String
  entries : List (String × Scalar)
  /-- Asked for the upper-case names that have no entry. -/
  fallback : String → Option Scalar := fun _ => none

namespace TypeTable

def key (native : String) : String := Text.upper (Text.trim native)

/-- The types by the upper case of their names, and the names by their types. The first pair of a key counts. -/
structure Index where
  types : List (String × Scalar) := []
  names : List (Scalar × String) := []

/-- An entry hides the earlier types of its name, but no earlier name of its type. -/
def Index.add (i : Index) (e : String × Scalar) : Index where
  types := (Text.upper e.1, e.2) :: i.types
  names := if (i.names.lookup e.2).isSome then i.names else (e.2, e.1) :: i.names

def index (entries : List (String × Scalar)) : Index := entries.foldl Index.add {}

def scalar? (t : TypeTable) (native : String) : Option Scalar :=
  ((index t.entries).types.lookup (key native)).or (t.fallback (key native))

def native? (t : TypeTable) (type : Scalar) : Option String := (index t.entries).names.lookup type

def scalar (t : TypeTable) (native : String) : Except WarehouseError Scalar :=
  match t.scalar? native with
  | some type => .ok type
  | none => .error (.unsupportedType t.backend native)

def bigquery : List (String × Scalar) :=
  [("BOOL", .bool), ("BOOLEAN", .bool), ("INT64", .int64), ("INTEGER", .int64), ("FLOAT64", .float64),
    ("FLOAT", .float64), ("NUMERIC", .decimal), ("BIGNUMERIC", .decimal), ("STRING", .varchar),
    ("BYTES", .varbinary), ("DATE", .date), ("TIME", .time), ("DATETIME", .timestamp),
    ("TIMESTAMP", .timestampTz), ("JSON", .json)]

def postgres : List (String × Scalar) :=
  [("BOOLEAN", .bool), ("BOOL", .bool), ("SMALLINT", .int16), ("INT2", .int16), ("INTEGER", .int32),
    ("INT4", .int32), ("INT", .int32), ("BIGINT", .int64), ("INT8", .int64), ("REAL", .float32),
    ("FLOAT4", .float32), ("DOUBLE PRECISION", .float64), ("FLOAT8", .float64), ("NUMERIC", .decimal),
    ("DECIMAL", .decimal), ("CHAR", .char), ("BPCHAR", .char), ("VARCHAR", .varchar),
    ("CHARACTER VARYING", .varchar), ("TEXT", .varchar), ("BYTEA", .varbinary), ("DATE", .date),
    ("TIME", .time), ("TIMESTAMP", .timestamp), ("TIMESTAMPTZ", .timestampTz),
    ("TIMESTAMP WITH TIME ZONE", .timestampTz), ("JSONB", .json), ("JSON", .json), ("UUID", .uuid)]

/-- A big integer arrives as a number of any precision. -/
def couchbase : List (String × Scalar) :=
  [("BOOLEAN", .bool), ("BIGINT", .decimal), ("BINARY", .binary), ("DATE", .date), ("DOUBLE", .float64),
    ("DECIMAL", .decimal), ("FLOAT", .float32), ("SMALLINT", .int16), ("INTEGER", .int32),
    ("TINYINT", .int8), ("TIMESTAMP", .timestamp), ("TIMESTAMP_WITH_TIMEZONE", .timestampTz),
    ("VARCHAR", .varchar)]

def duckdb : List (String × Scalar) :=
  [("BOOLEAN", .bool), ("TINYINT", .int8), ("SMALLINT", .int16), ("INTEGER", .int32), ("BIGINT", .int64),
    ("FLOAT", .float32), ("REAL", .float32), ("DOUBLE", .float64), ("DECIMAL", .decimal),
    ("HUGEINT", .decimal), ("VARCHAR", .varchar), ("BLOB", .varbinary), ("DATE", .date), ("TIME", .time),
    ("TIMESTAMP", .timestamp), ("TIMESTAMP WITH TIME ZONE", .timestampTz), ("TIMESTAMPTZ", .timestampTz),
    ("JSON", .json), ("UUID", .uuid)]

def snowflake : List (String × Scalar) :=
  [("BOOLEAN", .bool), ("NUMBER", .decimal), ("DECIMAL", .decimal), ("NUMERIC", .decimal),
    ("BIGINT", .int64), ("INTEGER", .int64), ("INT", .int64), ("SMALLINT", .int64), ("TINYINT", .int64),
    ("DOUBLE", .float64), ("FLOAT", .float64), ("REAL", .float64), ("CHAR", .char), ("VARCHAR", .varchar),
    ("STRING", .varchar), ("TEXT", .varchar), ("BINARY", .binary), ("VARBINARY", .varbinary),
    ("DATE", .date), ("TIME", .time), ("TIMESTAMP_NTZ", .timestamp), ("TIMESTAMP_TZ", .timestampTz),
    ("TIMESTAMP_LTZ", .timestampTz), ("VARIANT", .json)]

def sqlite : List (String × Scalar) :=
  [("INTEGER", .int64), ("REAL", .float64), ("TEXT", .varchar), ("BLOB", .varbinary),
    ("NUMERIC", .decimal), ("BOOLEAN", .bool), ("DATE", .date), ("DATETIME", .timestamp),
    ("TIMESTAMP", .timestamp), ("JSON", .json)]

def baseName (declared : String) : String :=
  Text.trim (String.ofList (declared.toList.takeWhile (· != '(')))

/-- SQLite takes any declared type; one without entry is looked up without parameters, then by affinity. -/
def sqliteFallback (declared : String) : Option Scalar :=
  let base := baseName declared
  ((index sqlite).types.lookup base).or (some (Affinity.ofBase base).scalar)

end TypeTable

def Backend.types (b : Backend) : TypeTable :=
  match b with
  | .bigquery => ⟨b.name, TypeTable.bigquery, fun _ => none⟩
  | .postgres => ⟨b.name, TypeTable.postgres, fun _ => none⟩
  | .couchbase => ⟨b.name, TypeTable.couchbase, fun _ => none⟩
  | .duckdb => ⟨b.name, TypeTable.duckdb, fun _ => none⟩
  | .snowflake => ⟨b.name, TypeTable.snowflake, fun _ => none⟩
  | .sqlite => ⟨b.name, TypeTable.sqlite, TypeTable.sqliteFallback⟩

end QueryBridge
