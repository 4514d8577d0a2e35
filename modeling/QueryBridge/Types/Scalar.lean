set_option autoImplicit false

namespace QueryBridge

inductive Scalar where
  | bool | int8 | int16 | int32 | int64 | float32 | float64 | decimal | char | varchar
  | binary | varbinary | date | time | timestamp | timestampTz | json | uuid
  deriving DecidableEq, Repr

namespace Scalar

def all : List Scalar :=
  [bool, int8, int16, int32, int64, float32, float64, decimal, char, varchar, binary, varbinary,
    date, time, timestamp, timestampTz, json, uuid]

def isInteger : Scalar → Bool
  | int8 | int16 | int32 | int64 => true
  | _ => false

def isFloat : Scalar → Bool
  | float32 | float64 => true
  | _ => false

def isNumeric (t : Scalar) : Bool := t.isInteger || t.isFloat || t == decimal

def isString : Scalar → Bool
  | char | varchar => true
  | _ => false

def isTemporal : Scalar → Bool
  | date | time | timestamp | timestampTz => true
  | _ => false

def sqlName : Scalar → String
  | bool => "BOOLEAN" | int8 => "TINYINT" | int16 => "SMALLINT" | int32 => "INTEGER"
  | int64 => "BIGINT" | float32 => "REAL" | float64 => "DOUBLE PRECISION" | decimal => "NUMERIC"
  | char => "CHAR" | varchar => "VARCHAR" | binary => "BINARY" | varbinary => "VARBINARY"
  | date => "DATE" | time => "TIME" | timestamp => "TIMESTAMP"
  | timestampTz => "TIMESTAMP WITH TIME ZONE" | json => "JSON" | uuid => "UUID"

def wireName : Scalar → String
  | bool => "bool" | int8 => "int8" | int16 => "int16" | int32 => "int32" | int64 => "int64"
  | float32 => "float32" | float64 => "float64" | decimal => "decimal" | char => "char"
  | varchar => "varchar" | binary => "binary" | varbinary => "varbinary" | date => "date"
  | time => "time" | timestamp => "timestamp" | timestampTz => "timestamp_tz" | json => "json"
  | uuid => "uuid"

def variantName : Scalar → String
  | bool => "Bool" | int8 => "Int8" | int16 => "Int16" | int32 => "Int32" | int64 => "Int64"
  | float32 => "Float32" | float64 => "Float64" | decimal => "Decimal" | char => "Char"
  | varchar => "Varchar" | binary => "Binary" | varbinary => "Varbinary" | date => "Date"
  | time => "Time" | timestamp => "Timestamp" | timestampTz => "TimestampTz" | json => "Json"
  | uuid => "Uuid"

def ofWireName? (s : String) : Option Scalar := all.find? (·.wireName == s)

end Scalar

end QueryBridge
