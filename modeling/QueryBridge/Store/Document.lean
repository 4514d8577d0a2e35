import QueryBridge.Json.Writer
import QueryBridge.Store.Database

set_option autoImplicit false

namespace QueryBridge.Store

open Json

namespace ColumnDefinition

def toJson (c : ColumnDefinition) : Json :=
  .record [("name", .string c.name), ("type", .string c.type), ("notNull", .bool c.notNull)]

def fields : List (RecordField ColumnDefinition) :=
  [⟨"name", fun j c => return { c with name := ← decodeString j }, true⟩,
    ⟨"type", fun j c => return { c with type := ← decodeString j }, true⟩,
    ⟨"notNull", fun j c => return { c with notNull := ← decodeBool j }, true⟩]

def decode : Json → Decoded ColumnDefinition := decodeRecord "column" fields ⟨"", "", false⟩

end ColumnDefinition

namespace Table

def toJson (t : Table) : Json :=
  .record [("name", .string t.name), ("columns", .list (t.columns.map ColumnDefinition.toJson)),
    ("rows", .list (t.rows.map Row.toJson))]

def fields : List (RecordField Table) :=
  [⟨"name", fun j t => return { t with name := ← decodeString j }, true⟩,
    ⟨"columns", fun j t => return { t with columns := ← decodeList ColumnDefinition.decode j }, true⟩,
    ⟨"rows", fun j t => return { t with rows := ← decodeList Row.decode j }, true⟩]

def decode : Json → Decoded Table := decodeRecord "table" fields ⟨"", [], []⟩

end Table

namespace Database

def text (d : Database) : String := (Json.list (d.tables.map Table.toJson)).render

def ofText (s : String) : Except StoreError Database :=
  if s.isEmpty then .ok empty else
  match decodeText (decodeList Table.decode) s with
  | .ok tables => .ok ⟨tables⟩
  | .error _ => .error .foreignFile

end Database

end QueryBridge.Store
