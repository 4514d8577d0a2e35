import QueryBridge.Json.Decode

set_option autoImplicit false

namespace QueryBridge

inductive Cell where
  | null
  | bool (b : Bool)
  | int (n : Int64)
  | float (x : Decimal.Binary64)
  | text (s : String)
  | bytes (b : List UInt8)
  deriving DecidableEq

abbrev Row := List Cell

namespace Cell

def toJson : Cell → Json
  | null => .null
  | bool b => .bool b
  | int n => .int n.toInt
  | float x => .float x
  | text s => .string s
  | bytes b => .list (b.map fun n => .int n.toNat)

def byte? : Json → Option UInt8
  | .int n => if 0 ≤ n && n < 256 then some n.toNat.toUInt8 else none
  | _ => none

/-- An integer beyond 64 signed bits is a float; a list is binary if it holds bytes only. -/
def ofJson? : Json → Option Cell
  | .null => some null
  | .bool b => some (bool b)
  | .int n =>
    some (if Decimal.inInt64 n then int (Int64.ofInt n) else float (Decimal.Binary64.ofInt n))
  | .float x => some (float x)
  | .string s => some (text s)
  | .array items _ => (items.mapM byte?).map bytes
  | _ => none

/-- How deep a document may be nested, without the list of a row. -/
def depthLimit : Nat := 127

def decode (j : Json) : Json.Decoded Cell := do
  j.whole depthLimit
  match ofJson? j with
  | some c => return c
  | none => Json.contentFault (.noAlternative "Value")

end Cell

namespace Row

def toJson (r : Row) : Json := .list (r.map Cell.toJson)

def decode : Json → Json.Decoded Row := Json.decodeList Cell.decode

end Row

end QueryBridge
