import QueryBridge.Text.Quoted
import QueryBridge.Types.DataType

set_option autoImplicit false

namespace QueryBridge

/-- Each of these ends the whole statement; nothing is approximated. -/
inductive EmitError where
  | unmappedType (dialect name : String)
  | unsupported (dialect detail : String)
  | invalidCall (function detail : String)
  | nonFiniteFloat (text : String)
  deriving DecidableEq, Repr

def EmitError.message : EmitError → String
  | unmappedType dialect name => s!"{dialect} has no type mapping for {name}"
  | unsupported dialect detail => s!"{dialect} cannot express {detail}"
  | invalidCall function detail => s!"Invalid {function} call: {detail}"
  | nonFiniteFloat text => s!"Cannot emit non-finite float literal {text}"

open Text

inductive IndexStyle where
  | oneBased
  | zeroBased
  | ordinal
  | unsupported
  deriving DecidableEq, Repr

inductive ArrayStyle where
  | bracket
  | keyword
  | call (function : String)
  | unsupported
  deriving DecidableEq, Repr

inductive TruncStyle where
  | unitFirst
  | unitLast
  deriving DecidableEq, Repr

inductive TypeStyle where
  | parameters
  | angles
  deriving DecidableEq, Repr

structure Rules where
  name : String
  quoteIdentifier : String → String
  formatBool : Bool → String
  scalarName : Scalar → String
  /-- The name an unquoted identifier resolves to. -/
  foldUnquoted : String → String := lower
  concatOperator : String := "||"
  fullJoin : Bool := true
  unnest : Bool := true
  /-- Exact synonyms of a function, by upper-case name. -/
  functionNames : List (String × String) := []
  indexStyle : IndexStyle := .oneBased
  arrayStyle : ArrayStyle := .bracket
  truncStyle : TruncStyle := .unitFirst
  /-- The function that returns the value of a group of one row. -/
  singleValue : String := "ANY_VALUE"
  typeStyle : TypeStyle := .parameters
  explicitDistinct : Bool := false
  operandParens : Bool := true
  offsetNeedsLimit : Bool := false

namespace Rules

def quoteString (_ : Rules) (s : String) : String := quote '\'' s

def remapFunction (r : Rules) (name : String) : Option String := r.functionNames.lookup (upper name)

def unsupported (r : Rules) (detail : String) : EmitError := .unsupported r.name detail

def parameterTypeName (r : Rules) : DataType → Except EmitError String
  | .scalar t => .ok (r.scalarName t)
  | .decimal p s => .ok (DataType.withPrecision (r.scalarName .decimal) p s)
  | .char n => .ok (DataType.withLength (r.scalarName .char) n)
  | .varchar n => .ok (DataType.withLength (r.scalarName .varchar) n)
  | .array e => (r.parameterTypeName e).map (· ++ "[]")
  | .interval q => .ok (DataType.intervalName q)
  | .unrecognized name => .error (.unmappedType r.name name)

/-- Precision beyond 38 digits takes the wider decimal; no parameter is written. -/
def angleTypeName (r : Rules) : DataType → Except EmitError String
  | .scalar t => .ok (r.scalarName t)
  | .decimal (some p) _ => .ok (if p > 38 then "BIGNUMERIC" else "NUMERIC")
  | .decimal none _ => .ok "NUMERIC"
  | .char _ | .varchar _ => .ok "STRING"
  | .array e => (r.angleTypeName e).map fun name => "ARRAY<" ++ name ++ ">"
  | .interval q => .ok (DataType.intervalName q)
  | .unrecognized name => .error (.unmappedType r.name name)

def typeName (r : Rules) (t : DataType) : Except EmitError String :=
  match r.typeStyle with
  | .parameters => r.parameterTypeName t
  | .angles => r.angleTypeName t

end Rules

end QueryBridge
