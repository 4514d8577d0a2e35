import QueryBridge.Text.Pattern
import QueryBridge.Types.Scalar

set_option autoImplicit false

namespace QueryBridge

inductive Affinity where
  | integer | text | blob | real | numeric
  deriving DecidableEq, Repr

namespace Affinity

/-- Decided by the first of these parts that an upper-case type name contains. -/
def ofBase (base : String) : Affinity :=
  let has (part : String) := Text.contains base part
  if has "INT" then integer
  else if has "CHAR" || has "CLOB" || has "TEXT" then text
  else if base.isEmpty || has "BLOB" then blob
  else if has "REAL" || has "FLOA" || has "DOUB" then real
  else numeric

def scalar : Affinity → Scalar
  | integer => .int64
  | text => .varchar
  | blob => .varbinary
  | real => .float64
  | numeric => .decimal

def declaredName : Affinity → String
  | integer => "INT"
  | text => "TEXT"
  | blob => ""
  | real => "REAL"
  | numeric => "NUM"

def isNumeric : Affinity → Bool
  | integer | real | numeric => true
  | text | blob => false

end Affinity

end QueryBridge
