import QueryBridge.Source.Names

set_option autoImplicit false

namespace QueryBridge.Source

/-- `own` tells that the name is not a built-in one, `closes` that a bracket of the enclosing type was taken. -/
structure TypeText where
  text : String
  own : Bool := false
  closes : Bool := false

def plainTypes : List (String × String) :=
  ["BOOLEAN", "BOOL", "REAL", "FLOAT4", "FLOAT64", "FLOAT8", "INT64", "UUID", "DATE", "INTERVAL",
    "JSON", "JSONB", "REGCLASS", "TEXT", "TINYTEXT", "MEDIUMTEXT", "LONGTEXT", "TINYBLOB",
    "MEDIUMBLOB", "LONGBLOB", "BYTEA", "TRIGGER"].map (fun t => (t, t))
  ++ [("FLOAT32", "Float32"), ("INT16", "Int16"), ("INT32", "Int32"), ("INT128", "Int128"),
    ("INT256", "Int256"), ("UINT8", "UInt8"), ("UINT16", "UInt16"), ("UINT32", "UInt32"),
    ("UINT64", "UInt64"), ("UINT128", "UInt128"), ("UINT256", "UInt256"), ("DATE32", "Date32")]

def wholeTypes : List String :=
  ["TINYINT", "INT2", "SMALLINT", "MEDIUMINT", "INT", "INT4", "INT8", "INTEGER", "BIGINT"]

def sizedTypes : List String :=
  ["FLOAT", "CLOB", "BINARY", "VARBINARY", "BLOB", "BYTES", "DATETIME", "STRING"]

def exactTypes : List String := ["NUMERIC", "DECIMAL", "DEC", "BIGNUMERIC", "BIGDECIMAL"]

namespace Reader

def inParens? (r : Reader String) : Reader String := do
  if ← symbol "(" then
    let text ← r
    needSymbol ")"
    return inParens text
  else return ""

def size? : Reader String := inParens? unsigned

def precisionAndScale? : Reader String := inParens? do
  let p ← unsigned
  if ← symbol "," then return p ++ "," ++ (← unsigned) else return p

def characterLength? : Reader String := inParens? do
  if ← word "MAX" then return "MAX"
  let n ← unsigned
  return n ++ behindBlank (← oneOf ["CHARACTERS", "OCTETS"])

def timeType (name : String) : Reader String := do
  let n ← size?
  if ← word "WITH" then needWords ["TIME", "ZONE"]; return name ++ n ++ " WITH TIME ZONE"
  if ← word "WITHOUT" then needWords ["TIME", "ZONE"]; return name ++ n ++ " WITHOUT TIME ZONE"
  return name ++ n

def listedValue (d : Dialect) : Reader String := do
  let text := marked '\'' (← literalText d)
  if ← symbol "=" then return text ++ " = " ++ (← signedNumber) else return text

def modifiers? : Reader String := do
  if ← symbol "(" then
    let found ← chain (fun (found : List String × Bool) => do
      if found.2 then return none
      match ← next with
      | .word n => return some (n.verbatim :: found.1, false)
      | .number text _ => return some (text :: found.1, false)
      | .string (.plain '\'') text => return some (text :: found.1, false)
      | .symbol "," => return some (found.1, false)
      | .symbol ")" => return some (found.1, true)
      | _ => refuse) ([], false)
    if !found.2 then refuse
    return if found.1.isEmpty then "" else inParens (commaJoin found.1.reverse)
  else return ""

/-- The bracket that closes a type; `taken` tells that it is gone already. -/
def closeAngle (taken : Bool) : Reader Bool := do
  if taken then return false
  if ← symbol ">" then return false
  if ← symbol ">>" then return true
  refuse

def structField (type : Reader TypeText) : Reader TypeText := do
  let named := (← peekAt 0).any (·.isWord) && (← peekAt 1).any (·.isWord)
  if named then
    let n ← name
    let t ← type
    return { t with text := n.render ++ " " ++ t.text }
  else type

def structFields (type : Reader TypeText) : Reader (List String × Bool) := do
  if ← symbol "<" then
    let first ← structField type
    let fields ← chain (fun (fields : List String × Bool) => do
      if ← symbol "," then
        if fields.2 then refuse
        let field ← structField type
        return some (field.text :: fields.1, field.closes)
      else return none) ([first.text], first.closes)
    return (fields.1.reverse, ← closeAngle fields.2)
  else return ([], false)

def namedFields (d : Dialect) (type : Reader TypeText) : Reader String := do
  let fields ← parenthesized (list d do
    let n ← name
    let t ← type
    if t.closes then refuse
    return n.render ++ " " ++ t.text)
  return commaJoin fields

def typeHead (d : Dialect) (inner : Reader TypeText) : Reader TypeText := do
  let key ← keyAt 0
  let own : Reader TypeText := do
    let name ← path d false
    return { text := dotted name ++ (← modifiers?), own := true }
  match plainTypes.lookup key with
  | some text => skip 1; return { text }
  | none =>
  if wholeTypes.contains key then
    skip 1
    let n ← size?
    return { text := key ++ n ++ if ← word "UNSIGNED" then " UNSIGNED" else "" }
  else if sizedTypes.contains key then skip 1; return { text := key ++ (← size?) }
  else if exactTypes.contains key then skip 1; return { text := key ++ (← precisionAndScale?) }
  else match key with
  | "DOUBLE" =>
    skip 1
    return { text := if ← word "PRECISION" then "DOUBLE PRECISION" else "DOUBLE" }
  | "VARCHAR" | "NVARCHAR" => skip 1; return { text := key ++ (← characterLength?) }
  | "CHAR" | "CHARACTER" =>
    skip 1
    if ← word "VARYING" then return { text := key ++ " VARYING" ++ (← characterLength?) }
    if ← words ["LARGE", "OBJECT"] then return { text := key ++ " LARGE OBJECT" ++ (← size?) }
    return { text := key ++ (← characterLength?) }
  | "BIT" =>
    skip 1
    if ← word "VARYING" then return { text := "BIT VARYING" ++ (← size?) }
    return { text := "BIT" ++ (← size?) }
  | "TIMESTAMP" | "TIME" => skip 1; return { text := ← timeType key }
  | "TIMESTAMPTZ" | "TIMETZ" => skip 1; return { text := key ++ (← size?) }
  | "DATETIME64" =>
    skip 1
    let inner ← parenthesized do
      let n ← unsigned
      if ← symbol "," then return n ++ ", '" ++ (← literalText d) ++ "'" else return n
    return { text := "DateTime64" ++ inParens inner }
  | "FIXEDSTRING" =>
    skip 1
    return { text := "FixedString" ++ inParens (← parenthesized unsigned) }
  | "ENUM" | "ENUM8" | "ENUM16" =>
    skip 1
    return { text := key ++ inParens (commaJoin (← parenthesized (list d (listedValue d)))) }
  | "SET" =>
    skip 1
    let values ← parenthesized (listOf (fun _ => false) quotedText)
    return { text := "SET" ++ inParens (commaJoin (values.map (marked '\''))) }
  | "ARRAY" =>
    skip 1
    if d.bareArrayType then return { text := "ARRAY" }
    needSymbol "<"
    let element ← inner
    return { text := "ARRAY<" ++ element.text ++ ">", closes := ← closeAngle element.closes }
  | "STRUCT" =>
    if d.structParentheses then skip 1; return { text := "STRUCT" ++ inParens (← namedFields d inner) }
    else if d.structAngles then
      skip 1
      let (fields, closes) ← structFields inner
      return { text := if fields.isEmpty then "STRUCT" else "STRUCT<" ++ commaJoin fields ++ ">", closes }
    else own
  | "UNION" =>
    if d.structParentheses then skip 1; return { text := "UNION" ++ inParens (← namedFields d inner) }
    else own
  | _ => if (← peek).any (·.isWord) then own else refuse

def typeWithin (d : Dialect) : Nat → Reader TypeText
  | 0 => refuse
  | fuel + 1 => do
    let head ← typeHead d (typeWithin d fuel)
    chain (fun (t : TypeText) => do
      if ← symbol "[" then
        let n ← if d.sizedArrayTypes then attempt unsigned else pure none
        needSymbol "]"
        return some { t with text := t.text ++ "[" ++ n.getD "" ++ "]", own := false }
      else return none) head

def type (d : Dialect) : Reader TypeText := do
  let t ← typeWithin d ((← get).length + 1)
  if t.closes then refuse
  return t

def aliasColumns (d : Dialect) : Reader (List AliasColumn) := do
  if ← symbol "(" then
    let columns ← list d do
      let n ← name
      return { name := n, type := (← attempt (type d)).map (·.text) : AliasColumn }
    needSymbol ")"
    return columns
  else return []

def relationAlias? (d : Dialect) : Reader (Option AliasName) := do
  match ← label? relationAliasStops with
  | some name => return some { name, columns := ← aliasColumns d }
  | none => return none

end Reader

end QueryBridge.Source
