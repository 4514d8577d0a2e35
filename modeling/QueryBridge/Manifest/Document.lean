import QueryBridge.Manifest.Basic

set_option autoImplicit false

namespace QueryBridge

open Json

namespace Properties

def toJson (p : Properties) : Json := .record (p.entries.map fun e => (e.1, .string e.2))

def decodeEntries (p : Properties) : List (Json × Json) → Decoded Properties
  | [] => .ok p
  | (key, value) :: rest => do
    let name ← decodeKey key
    let text ← decodeString value
    decodeEntries (p.insert name text) rest

def decode : Json → Decoded Properties
  | .object members stop => do close stop (← decodeEntries .empty members)
  | j => j.mismatch "a map"

end Properties

namespace EnumValue

def toJson (v : EnumValue) : Json :=
  .record ([("name", .string v.name)] ++ optionalMember "value" v.value
    ++ [("properties", v.properties.toJson)])

def fields : List (RecordField EnumValue) :=
  [⟨"name", fun j v => return { v with name := ← decodeString j }, true⟩,
    ⟨"value", fun j v => return { v with value := ← decodeOption decodeString j }, false⟩,
    ⟨"properties", fun j v => return { v with properties := ← Properties.decode j }, false⟩]

def decode : Json → Decoded EnumValue := decodeRecord "EnumValue" fields ⟨"", none, .empty⟩

end EnumValue

namespace EnumDefinition

def toJson (d : EnumDefinition) : Json :=
  .record [("name", .string d.name), ("values", .list (d.values.map EnumValue.toJson)),
    ("properties", d.properties.toJson)]

/-- The parts of an enumeration whose name may still be empty. -/
structure Parts where
  name : String
  values : List EnumValue
  properties : Properties

def fields : List (RecordField Parts) :=
  [⟨"name", fun j p => return { p with name := ← decodeString j }, true⟩,
    ⟨"values", fun j p => return { p with values := ← decodeList EnumValue.decode j }, true⟩,
    ⟨"properties", fun j p => return { p with properties := ← Properties.decode j }, false⟩]

def decode (j : Json) : Decoded EnumDefinition := do
  let p ← decodeRecord "RawEnumDefinition" fields ⟨"", [], .empty⟩ j
  match make p.name p.values p.properties with
  | .ok d => return d
  | .error e => contentFault (.rejected e.message)

end EnumDefinition

namespace ModelColumn

def toJson (c : ModelColumn) : Json :=
  .record ([("name", .string c.name), ("type", .string c.type)]
    ++ optionalMember "relationship" c.relationship
    ++ [("isCalculated", .bool c.isCalculated), ("notNull", .bool c.notNull)]
    ++ optionalMember "expression" c.expression)

def fields : List (RecordField ModelColumn) :=
  [⟨"name", fun j c => return { c with name := ← decodeString j }, true⟩,
    ⟨"type", fun j c => return { c with type := ← decodeString j }, true⟩,
    ⟨"relationship", fun j c => return { c with relationship := ← decodeOption decodeString j }, false⟩,
    ⟨"isCalculated", fun j c => return { c with isCalculated := ← decodeBool j }, false⟩,
    ⟨"notNull", fun j c => return { c with notNull := ← decodeBool j }, false⟩,
    ⟨"expression", fun j c => return { c with expression := ← decodeOption decodeString j }, false⟩]

def decode : Json → Decoded ModelColumn := decodeRecord "Column" fields ⟨"", "", none, false, false, none⟩

end ModelColumn

namespace Model

def toJson (m : Model) : Json :=
  .record ([("name", .string m.name), ("refSql", .string m.refSql),
    ("columns", .list (m.columns.map ModelColumn.toJson))] ++ optionalMember "primaryKey" m.primaryKey)

def fields : List (RecordField Model) :=
  [⟨"name", fun j m => return { m with name := ← decodeString j }, true⟩,
    ⟨"refSql", fun j m => return { m with refSql := ← decodeString j }, true⟩,
    ⟨"columns", fun j m => return { m with columns := ← decodeList ModelColumn.decode j }, false⟩,
    ⟨"primaryKey", fun j m => return { m with primaryKey := ← decodeOption decodeString j }, false⟩]

def decode : Json → Decoded Model := decodeRecord "Model" fields ⟨"", "", [], none⟩

end Model

namespace Cardinality

def all : List Cardinality := [oneToOne, oneToMany, manyToOne, manyToMany]

def wireName : Cardinality → String
  | oneToOne => "ONE_TO_ONE"
  | oneToMany => "ONE_TO_MANY"
  | manyToOne => "MANY_TO_ONE"
  | manyToMany => "MANY_TO_MANY"

def decode : Json → Decoded Cardinality := decodeVariant (all.map fun c => (c.wireName, c))

end Cardinality

namespace Relationship

def toJson (r : Relationship) : Json :=
  .record [("name", .string r.name), ("models", strings r.models),
    ("joinType", .string r.joinType.wireName), ("condition", .string r.condition)]

def fields : List (RecordField Relationship) :=
  [⟨"name", fun j r => return { r with name := ← decodeString j }, true⟩,
    ⟨"models", fun j r => return { r with models := ← decodeList decodeString j }, true⟩,
    ⟨"joinType", fun j r => return { r with joinType := ← Cardinality.decode j }, true⟩,
    ⟨"condition", fun j r => return { r with condition := ← decodeString j }, true⟩]

def decode : Json → Decoded Relationship := decodeRecord "Relationship" fields ⟨"", [], .oneToOne, ""⟩

end Relationship

namespace Manifest

def toJson (m : Manifest) : Json :=
  .record [("models", .list (m.models.map Model.toJson)),
    ("relationships", .list (m.relationships.map Relationship.toJson)),
    ("enums", .list (m.enums.map EnumDefinition.toJson))]

def fields : List (RecordField Manifest) :=
  [⟨"models", fun j m => return { m with models := ← decodeList Model.decode j }, false⟩,
    ⟨"relationships", fun j m => return { m with relationships := ← decodeList Relationship.decode j }, false⟩,
    ⟨"enums", fun j m => return { m with enums := ← decodeList EnumDefinition.decode j }, false⟩]

def decode : Json → Decoded Manifest := decodeRecord "Manifest" fields .empty

def read (text : String) : Except ManifestError Manifest :=
  (decodeText decode text).mapError .unparsable

end Manifest

end QueryBridge
