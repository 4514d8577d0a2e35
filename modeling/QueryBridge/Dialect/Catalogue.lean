import QueryBridge.Dialect.Rules

set_option autoImplicit false

namespace QueryBridge

open Text

inductive Dialect where
  | duckdb | postgres | snowflake | bigquery | sqlite
  deriving DecidableEq, Repr

namespace Dialect

def all : List Dialect := [duckdb, postgres, snowflake, bigquery, sqlite]

def boolWord (b : Bool) : String := if b then "true" else "false"

def boolDigit (b : Bool) : String := if b then "1" else "0"

/-- Identifiers may not begin with a dollar sign; an underscore goes in front of it. -/
def quoteEscapingDollar (name : String) : String :=
  quote graveAccent (if name.toList.head? = some '$' then "_" ++ name else name)

def duckdbType : Scalar → String
  | .bool => "BOOLEAN" | .int8 => "TINYINT" | .int16 => "SMALLINT" | .int32 => "INTEGER"
  | .int64 => "BIGINT" | .float32 => "REAL" | .float64 => "DOUBLE" | .decimal => "DECIMAL"
  | .char | .varchar => "VARCHAR" | .binary | .varbinary => "BLOB" | .date => "DATE"
  | .time => "TIME" | .timestamp => "TIMESTAMP" | .timestampTz => "TIMESTAMPTZ" | .json => "JSON"
  | .uuid => "UUID"

def postgresType : Scalar → String
  | .bool => "BOOLEAN" | .int8 | .int16 => "SMALLINT" | .int32 => "INTEGER" | .int64 => "BIGINT"
  | .float32 => "REAL" | .float64 => "DOUBLE PRECISION" | .decimal => "NUMERIC" | .char => "CHAR"
  | .varchar => "VARCHAR" | .binary | .varbinary => "BYTEA" | .date => "DATE" | .time => "TIME"
  | .timestamp => "TIMESTAMP" | .timestampTz => "TIMESTAMPTZ" | .json => "JSONB" | .uuid => "UUID"

def snowflakeType : Scalar → String
  | .bool => "BOOLEAN" | .int8 => "TINYINT" | .int16 => "SMALLINT" | .int32 => "INTEGER"
  | .int64 => "BIGINT" | .float32 | .float64 => "DOUBLE" | .decimal => "NUMBER" | .char => "CHAR"
  | .varchar => "VARCHAR" | .binary | .varbinary => "BINARY" | .date => "DATE" | .time => "TIME"
  | .timestamp => "TIMESTAMP_NTZ" | .timestampTz => "TIMESTAMP_TZ" | .json => "VARIANT"
  | .uuid => "VARCHAR"

def bigqueryType : Scalar → String
  | .bool => "BOOL" | .int8 | .int16 | .int32 | .int64 => "INT64"
  | .float32 | .float64 => "FLOAT64" | .decimal => "NUMERIC" | .char | .varchar => "STRING"
  | .binary | .varbinary => "BYTES" | .date => "DATE" | .time => "TIME"
  | .timestamp | .timestampTz => "TIMESTAMP" | .json => "JSON" | .uuid => "STRING"

def sqliteType : Scalar → String
  | .bool => "BOOLEAN" | .int8 | .int16 | .int32 | .int64 => "INTEGER"
  | .float32 | .float64 => "REAL" | .decimal => "NUMERIC" | .char | .varchar => "TEXT"
  | .binary | .varbinary => "BLOB" | .date => "DATE" | .time => "TIME"
  | .timestamp | .timestampTz => "TIMESTAMP" | .json => "TEXT" | .uuid => "TEXT"

def rules : Dialect → Rules
  | duckdb => {
      name := "duckdb", quoteIdentifier := quote '"', formatBool := boolWord
      scalarName := duckdbType, functionNames := [("NVL", "COALESCE")] }
  | postgres => {
      name := "postgres", quoteIdentifier := quote '"', formatBool := boolWord
      scalarName := postgresType, functionNames := [("NVL", "COALESCE"), ("IFNULL", "COALESCE")]
      arrayStyle := .keyword, singleValue := "MAX" }
  | snowflake => {
      name := "snowflake", quoteIdentifier := quote '"', formatBool := boolWord
      scalarName := snowflakeType, foldUnquoted := upper, functionNames := [("IFNULL", "NVL")]
      unnest := false, indexStyle := .zeroBased, arrayStyle := .call "ARRAY_CONSTRUCT" }
  | bigquery => {
      name := "bigquery", quoteIdentifier := quoteEscapingDollar, formatBool := boolWord
      scalarName := bigqueryType, foldUnquoted := id, functionNames := [("NVL", "IFNULL")]
      indexStyle := .ordinal, truncStyle := .unitLast, typeStyle := .angles
      explicitDistinct := true }
  | sqlite => {
      name := "sqlite", quoteIdentifier := quote '"', formatBool := boolDigit
      scalarName := sqliteType, functionNames := [("NVL", "IFNULL")], fullJoin := false
      unnest := false, indexStyle := .unsupported, arrayStyle := .unsupported
      singleValue := "MAX", operandParens := false, offsetNeedsLimit := true }

def name (d : Dialect) : String := d.rules.name

/-- Letter case does not matter, and some dialects have short names. -/
def ofName? (s : String) : Option Dialect :=
  match lower s with
  | "duckdb" | "duck" => some duckdb
  | "postgres" | "postgresql" | "pg" => some postgres
  | "snowflake" => some snowflake
  | "bigquery" | "bq" => some bigquery
  | "sqlite" => some sqlite
  | _ => none

def fallback : Dialect := duckdb

end Dialect

end QueryBridge
