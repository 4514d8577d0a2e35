import QueryBridge.Json.Decode
import QueryBridge.Tree.Document

set_option autoImplicit false

namespace QueryBridge

open Json

def decodeCount (j : Json) : Decoded UInt32 := return (← decodeInt j).toNat.toUInt32

def Scalar.decode : Json → Decoded Scalar := decodeVariant (Scalar.all.map fun t => (t.wireName, t))

/-- A type is an object with one member, named for the kind of the type. -/
def DataType.decodeWith (fuel : Nat) (j : Json) : Decoded DataType :=
  match fuel, j with
  | fuel + 1, .object [(key, v)] none => do
    match ← decodeKey key with
    | "Scalar" => return .scalar (← Scalar.decode v)
    | "Decimal" => return .decimal (← optionAt decodeCount v "precision") (← optionAt decodeCount v "scale")
    | "Char" => return .char (← decodeOption decodeCount v)
    | "Varchar" => return .varchar (← decodeOption decodeCount v)
    | "Array" => return .array (← decodeWith fuel v)
    | "Interval" => return .interval (← decodeOption decodeString v)
    | "Unrecognized" => return .unrecognized (← decodeString v)
    | kind => contentFault (.unknownVariant kind [])
  | _, j => j.mismatch "a type"

def DataType.decode (j : Json) : Decoded DataType := decodeWith j.weight j

def decodeFloat (j : Json) : Decoded Decimal.Binary64 := do
  match Decimal.Binary64.ofText? (← decodeString j) with
  | some x => return x
  | none => j.mismatch "the text of a float"

def TableAlias.decode (j : Json) : Decoded TableAlias := return ⟨← j.stringAt "name", ← j.stringsAt "columns"⟩

def BinaryOp.decode : Json → Decoded BinaryOp := decodeVariant (BinaryOp.all.map fun o => (o.wireName, o))

def JoinType.decode : Json → Decoded JoinType := decodeVariant (JoinType.all.map fun t => (t.wireName, t))

def SetOp.decode : Json → Decoded SetOp := decodeVariant (SetOp.all.map fun o => (o.wireName, o))

def SortDir.decode : Json → Decoded SortDir := decodeVariant ([.asc, .desc].map fun (d : SortDir) => (d.wireName, d))

def NullsOrder.decode : Json → Decoded NullsOrder :=
  decodeVariant ([.first, .last].map fun (n : NullsOrder) => (n.wireName, n))

def Literal.decode? (kind : String) (j : Json) : Option (Decoded Literal) :=
  match kind with
  | "int" => some do return .int (Int64.ofInt (← decodeInt (j.get "value")))
  | "float" => some do return .float (← decodeFloat (j.get "value"))
  | "decimal" => some do return .decimal (← j.stringAt "value")
  | "string" => some do return .string (← j.stringAt "value")
  | "bool" => some do return .bool (← j.flagAt "value")
  | "null" => some (.ok .null)
  | "placeholder" => some do return .placeholder (← j.stringAt "value")
  | _ => none

section

variable (expr : Json → Decoded Expr) (query : Json → Decoded Query)

def decodeBranch (j : Json) : Decoded (Expr × Expr) := do
  match ← decodeList expr j with
  | [condition, result] => return (condition, result)
  | _ => j.mismatch "a condition and a result"

def SelectItem.decodeWith (j : Json) : Decoded SelectItem :=
  return ⟨← expr (j.get "expr"), ← optionAt decodeString j "alias"⟩

def Relation.decodeWith (j : Json) : Decoded Relation := do
  let label ← optionAt TableAlias.decode j "alias"
  match ← j.stringAt "kind" with
  | "table" => return .table (← j.stringsAt "name") label
  | "derived" => return .derived (← query (j.get "query")) label
  | "unnest" => return .unnest (← listAt expr j "exprs") label
  | kind => contentFault (.unknownVariant kind ["table", "derived", "unnest"])

def JoinConstraint.decodeWith (j : Json) : Decoded JoinConstraint := do
  let condition ← optionAt expr j "on"
  let columns ← optionAt (decodeList decodeString) j "using"
  match condition, columns with
  | some e, _ => return .on e
  | _, some names => return .using names
  | _, _ => return .none

def Join.decodeWith (j : Json) : Decoded Join :=
  return ⟨← JoinType.decode (j.get "type"), ← Relation.decodeWith expr query (j.get "relation"),
    ← JoinConstraint.decodeWith expr (j.get "constraint")⟩

def FromItem.decodeWith (j : Json) : Decoded FromItem :=
  return ⟨← Relation.decodeWith expr query (j.get "relation"), ← listAt (Join.decodeWith expr query) j "joins"⟩

def Select.decodeWith (j : Json) : Decoded Select :=
  return {
    distinct := ← j.flagAt "distinct", projection := ← listAt (SelectItem.decodeWith expr) j "projection"
    sources := ← listAt (FromItem.decodeWith expr query) j "from", selection := ← optionAt expr j "where"
    groupBy := ← listAt expr j "group_by", having := ← optionAt expr j "having" }

def OrderItem.decodeWith (j : Json) : Decoded OrderItem :=
  return ⟨← expr (j.get "expr"), ← optionAt SortDir.decode j "dir", ← optionAt NullsOrder.decode j "nulls"⟩

def Cte.decodeWith (j : Json) : Decoded Cte :=
  return ⟨← j.stringAt "name", ← j.stringsAt "columns", ← query (j.get "query")⟩

end

mutual

def Expr.decodeWith (fuel : Nat) (j : Json) : Decoded Expr :=
  match fuel with
  | 0 => j.mismatch "an expression"
  | fuel + 1 => do
    let kind ← j.stringAt "kind"
    let part (name : String) : Decoded Expr := Expr.decodeWith fuel (j.get name)
    let inner : Decoded Query := Query.decodeWith fuel (j.get "query")
    match kind with
    | "column" => return .column (← j.stringsAt "qualifier") (← j.stringAt "name")
    | "binary" => return .binary (← BinaryOp.decode (j.get "op")) (← part "left") (← part "right")
    | "not" => return .not (← part "expr")
    | "neg" => return .neg (← part "expr")
    | "function" =>
      return .call (← j.stringAt "name") (← listAt (Expr.decodeWith fuel) j "args") (← j.flagAt "distinct")
    | "keyword" => return .keyword (← j.stringAt "name")
    | "case" =>
      return .case (← optionAt (Expr.decodeWith fuel) j "operand")
        (← listAt (decodeBranch (Expr.decodeWith fuel)) j "when") (← optionAt (Expr.decodeWith fuel) j "else")
    | "subquery" => return .subquery (← inner)
    | "exists" => return .exists (← inner) (← j.flagAt "negated")
    | "in" => return .inList (← part "expr") (← listAt (Expr.decodeWith fuel) j "values") (← j.flagAt "negated")
    | "in_subquery" => return .inQuery (← part "expr") (← inner) (← j.flagAt "negated")
    | "between" => return .between (← part "expr") (← part "low") (← part "high") (← j.flagAt "negated")
    | "is_null" => return .isNull (← part "expr") (← j.flagAt "negated")
    | "like" => return .like (← part "expr") (← part "pattern") (← j.flagAt "negated")
    | "cast" => return .cast (← part "expr") (← DataType.decode (j.get "type"))
    | "index" => return .index (← part "array") (← part "index")
    | "array" => return .array (← listAt (Expr.decodeWith fuel) j "items")
    | "star" => return .star (← j.stringsAt "qualifier")
    | "paren" => return .paren (← part "expr")
    | "unsupported" => return .unsupported (← j.stringAt "detail")
    | kind => match Literal.decode? kind j with
      | some literal => return .literal (← literal)
      | none => contentFault (.unknownVariant kind [])

def Body.decodeWith (fuel : Nat) (j : Json) : Decoded Body :=
  match fuel with
  | 0 => j.mismatch "a body"
  | fuel + 1 => do
    match ← j.stringAt "kind" with
    | "select" => return .select (← Select.decodeWith (Expr.decodeWith fuel) (Query.decodeWith fuel) j)
    | "set" =>
      return .setOp (← SetOp.decode (j.get "op")) (← j.flagAt "all") (← Body.decodeWith fuel (j.get "left"))
        (← Body.decodeWith fuel (j.get "right"))
    | "query" => return .query (← Query.decodeWith fuel (j.get "query"))
    | kind => contentFault (.unknownVariant kind ["select", "set", "query"])

def Query.decodeWith (fuel : Nat) (j : Json) : Decoded Query :=
  match fuel with
  | 0 => j.mismatch "a query"
  | fuel + 1 =>
    return {
      ctes := ← listAt (Cte.decodeWith (Query.decodeWith fuel)) j "ctes", recursive := ← j.flagAt "recursive"
      body := ← Body.decodeWith fuel (j.get "body")
      orderBy := ← listAt (OrderItem.decodeWith (Expr.decodeWith fuel)) j "order_by"
      limit := ← optionAt (Expr.decodeWith fuel) j "limit"
      offset := ← optionAt (Expr.decodeWith fuel) j "offset" }

end

def Expr.decode (j : Json) : Decoded Expr := Expr.decodeWith j.weight j

def Query.decode (j : Json) : Decoded Query := Query.decodeWith j.weight j

def Relation.decode (j : Json) : Decoded Relation := Relation.decodeWith Expr.decode Query.decode j

def JoinConstraint.decode (j : Json) : Decoded JoinConstraint := JoinConstraint.decodeWith Expr.decode j

def SelectItem.decode (j : Json) : Decoded SelectItem := SelectItem.decodeWith Expr.decode j

def OrderItem.decode (j : Json) : Decoded OrderItem := OrderItem.decodeWith Expr.decode j

def Cte.decode (j : Json) : Decoded Cte := Cte.decodeWith Query.decode j

end QueryBridge
