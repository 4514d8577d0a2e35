import QueryBridge.Json.Decode
import QueryBridge.Warehouse.Backend

set_option autoImplicit false

namespace QueryBridge

structure Location where
  backend : Backend
  /-- From the outermost name to the table's own. -/
  path : List String
  deriving DecidableEq, Repr

namespace Location

def quoted (l : Location) : String :=
  ".".intercalate (l.path.map l.backend.dialect.rules.quoteIdentifier)

def text (l : Location) : String := l.backend.name ++ ":" ++ ".".intercalate l.path

def toJson (l : Location) : Json :=
  .record [("backend", .string l.backend.name), ("path", .strings l.path)]

open Json

def fields : List (RecordField Location) :=
  [⟨"backend", fun j l => return { l with backend := ← decodeVariant Backend.wireNames j }, true⟩,
    ⟨"path", fun j l => return { l with path := ← decodeList decodeString j }, true⟩]

def decode : Json → Decoded Location := decodeRecord "Location" fields ⟨.fallback, []⟩

end Location

end QueryBridge
