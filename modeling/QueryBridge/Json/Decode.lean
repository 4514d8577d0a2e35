import QueryBridge.Json.Reader
import QueryBridge.Json.Writer
import QueryBridge.Text.Quoted

set_option autoImplicit false

/-! Decoders go from left to right and stop at the first fault, be it of the text or of the content. A
record is written as an object, or as an array of its fields in order. -/

namespace QueryBridge

inductive ContentFault where
  | invalidType (found expected : String)
  | invalidLength (count : Nat) (expected : String)
  | missingField (key : String)
  | duplicateField (key : String)
  | unknownVariant (name : String) (known : List String)
  | noAlternative (type : String)
  /-- A rule of the decoded type is violated. -/
  | rejected (message : String)
  deriving DecidableEq, Repr

def inGraves (s : String) : String :=
  let grave := Text.graveAccent
  String.ofList (grave :: s.toList ++ [grave])

def ContentFault.message : ContentFault → String
  | invalidType found expected => s!"invalid type: {found}, expected {expected}"
  | invalidLength count expected => s!"invalid length {count}, expected {expected}"
  | missingField key => "missing field " ++ inGraves key
  | duplicateField key => "duplicate field " ++ inGraves key
  | unknownVariant name known =>
    "unknown variant " ++ inGraves name ++ ", expected " ++ (match known with
      | [] => "no variants"
      | [a] => inGraves a
      | [a, b] => inGraves a ++ " or " ++ inGraves b
      | many => "one of " ++ ", ".intercalate (many.map inGraves))
  | noAlternative type => "data did not match any variant of untagged enum " ++ type
  | rejected message => message

inductive JsonError where
  | text (fault : JsonFault)
  | content (fault : ContentFault)
  deriving DecidableEq, Repr

/-- The text was cut off, rather than wrong. -/
def JsonFault.isCut : JsonFault → Bool
  | malformed => false
  | _ => true

def JsonError.message : JsonError → String
  | text fault => if fault.isCut then "EOF while parsing" else "invalid JSON text"
  | content fault => fault.message

namespace Json

abbrev Decoded (α : Type) := Except JsonError α

def textFault {α : Type} (fault : JsonFault) : Decoded α := .error (.text fault)

def contentFault {α : Type} (fault : ContentFault) : Decoded α := .error (.content fault)

def malformed {α : Type} : Decoded α := textFault .malformed

def describe : Json → String
  | .null | .unreadable | .broken _ => "null"
  | .bool b => "boolean " ++ inGraves (if b then "true" else "false")
  | .int n => "integer " ++ inGraves (toString n)
  | .float x => "floating point " ++ inGraves (floatText x)
  | .string s => "string " ++ Text.escaped s
  | .array _ _ => "sequence"
  | .object _ _ => "map"

def mismatch {α : Type} (expected : String) : Json → Decoded α
  | .unreadable => malformed
  | .broken fault => textFault fault
  | j => contentFault (.invalidType j.describe expected)

def decodeString : Json → Decoded String
  | .string s => .ok s
  | j => j.mismatch "a string"

def decodeBool : Json → Decoded Bool
  | .bool b => .ok b
  | j => j.mismatch "a boolean"

def decodeOption {α : Type} (decode : Json → Decoded α) : Json → Decoded (Option α)
  | .null => .ok none
  | j => some <$> decode j

def close {α : Type} (stop : Option JsonFault) (x : α) : Decoded α :=
  match stop with
  | none => .ok x
  | some fault => textFault fault

def decodeItems {α : Type} (decode : Json → Decoded α) : List Json → Decoded (List α)
  | [] => .ok []
  | j :: rest => do
    let x ← decode j
    return x :: (← decodeItems decode rest)

def decodeList {α : Type} (decode : Json → Decoded α) : Json → Decoded (List α)
  | .array items stop => do close stop (← decodeItems decode items)
  | j => j.mismatch "a sequence"

def decodeKey : Json → Decoded String
  | .string s => .ok s
  | .broken fault => textFault fault
  | _ => malformed

mutual

/-- Passes over a value that nobody asked for; only what its text must be is checked. -/
def skip : Json → Decoded Unit
  | .broken .cutNumber => malformed
  | .broken fault => textFault fault
  | .array items stop => do
    skipItems items
    close stop ()
  | .object members stop => do
    skipMembers members
    close stop ()
  | _ => .ok ()

def skipItems : List Json → Decoded Unit
  | [] => .ok ()
  | j :: rest => do
    skip j
    skipItems rest

def skipMembers : List (Json × Json) → Decoded Unit
  | [] => .ok ()
  | (.string _, value) :: rest => do
    skip value
    skipMembers rest
  | (.unreadable, value) :: rest => do
    skip value
    skipMembers rest
  | (.broken fault, _) :: _ => textFault fault
  | _ :: _ => malformed

end

mutual

/-- Reads a value with all its parts, whatever it is used for; nesting ends before `levels`. -/
def whole (levels : Nat) : Json → Decoded Unit
  | .unreadable => malformed
  | .broken fault => textFault fault
  | .array items stop => do
    if levels ≤ 1 then malformed
    wholeItems (levels - 1) items
    close stop ()
  | .object members stop => do
    if levels ≤ 1 then malformed
    wholeMembers (levels - 1) members
    close stop ()
  | _ => .ok ()

def wholeItems (levels : Nat) : List Json → Decoded Unit
  | [] => .ok ()
  | j :: rest => do
    whole levels j
    wholeItems levels rest

def wholeMembers (levels : Nat) : List (Json × Json) → Decoded Unit
  | [] => .ok ()
  | (key, value) :: rest => do
    discard (decodeKey key)
    whole levels value
    wholeMembers levels rest

end

/-- A field of a record, and how its value enters what is known of the record so far. -/
structure RecordField (σ : Type) where
  key : String
  read : Json → σ → Decoded σ
  required : Bool

def RecordField.required? {σ : Type} (f : RecordField σ) (present : List String) : Decoded Unit :=
  if f.required && !present.contains f.key then contentFault (.missingField f.key) else .ok ()

/-- Fields in any order; unknown members are passed over. -/
def decodeMembers {σ : Type} (fields : List (RecordField σ)) (present : List String) (x : σ) :
    List (Json × Json) → Decoded (List String × σ)
  | [] => .ok (present, x)
  | (key, value) :: rest => do
    let key ← decodeKey key
    match fields.find? (·.key == key) with
    | none => do
      skip value
      decodeMembers fields present x rest
    | some f =>
      if present.contains key then contentFault (.duplicateField key)
      else decodeMembers fields (key :: present) (← f.read value x) rest

/-- Fields in their order; those at the end may be missing unless they are required. -/
def decodeFields {σ : Type} (stop : Option JsonFault) (expected : String) (count : Nat) (x : σ) :
    List (RecordField σ) → List Json → Decoded σ
  | [], [] => close stop x
  | [], _ :: _ => malformed
  | f :: fields, [] =>
    match stop with
    | some fault => textFault fault
    | none =>
      if f.required then contentFault (.invalidLength count expected)
      else decodeFields stop expected (count + 1) x fields []
  | f :: fields, j :: rest => do
    decodeFields stop expected (count + 1) (← f.read j x) fields rest

def elementCount (n : Nat) : String := toString n ++ (if n = 1 then " element" else " elements")

/-- A record of the given name; `start` holds what missing fields are taken to be. -/
def decodeRecord {σ : Type} (name : String) (fields : List (RecordField σ)) (start : σ) : Json → Decoded σ
  | .object members stop => do
    let (present, x) ← decodeMembers fields [] start members
    close stop ()
    fields.forM (·.required? present)
    return x
  | .array items stop =>
    decodeFields stop (s!"struct {name} with " ++ elementCount fields.length) 0 start fields items
  | j => j.mismatch ("struct " ++ name)

def decodeVariantName {α : Type} (variants : List (String × α)) (name : String) : Decoded α :=
  match variants.lookup name with
  | some x => .ok x
  | none => contentFault (.unknownVariant name (variants.map (·.1)))

/-- A name from a list, alone or as the only key of an object whose value is null. -/
def decodeVariant {α : Type} (variants : List (String × α)) : Json → Decoded α
  | .string s => decodeVariantName variants s
  | .object [] none => malformed
  | .object [] (some fault) => textFault fault
  | .object ((key, value) :: rest) stop => do
    let name ← match key with
      | .string s => .ok s
      | j => j.mismatch "variant identifier"
    let x ← decodeVariantName variants name
    match value with
    | .null => if rest.isEmpty then close stop x else malformed
    | j => j.mismatch "unit"
  | .broken .truncated => textFault .truncated
  | _ => malformed

def decodeText {α : Type} (decode : Json → Decoded α) (text : String) : Decoded α := do
  let (j, isFollowed) := parse text
  let x ← decode j
  if isFollowed then malformed else return x

mutual

/-- The number of values in a document, a bound on its depth. -/
def weight : Json → Nat
  | .array items _ => 1 + weightOfItems items
  | .object members _ => 1 + weightOfMembers members
  | _ => 1

def weightOfItems : List Json → Nat
  | [] => 0
  | j :: rest => weight j + weightOfItems rest

def weightOfMembers : List (Json × Json) → Nat
  | [] => 0
  | (_, value) :: rest => weight value + weightOfMembers rest

end

def hasName (name : String) : Json → Bool
  | .string s => s == name
  | _ => false

def get (j : Json) (name : String) : Json :=
  match j with
  | .object members _ => ((members.find? fun m => hasName name m.1).map (·.2)).getD .null
  | _ => .null

def stringAt (j : Json) (name : String) : Decoded String := decodeString (j.get name)

/-- A missing flag is false. -/
def flagAt (j : Json) (name : String) : Decoded Bool :=
  return (← decodeOption decodeBool (j.get name)).getD false

def optionAt {α : Type} (decode : Json → Decoded α) (j : Json) (name : String) : Decoded (Option α) :=
  decodeOption decode (j.get name)

/-- A missing list is empty. -/
def listAt {α : Type} (decode : Json → Decoded α) (j : Json) (name : String) : Decoded (List α) :=
  return (← optionAt (decodeList decode) j name).getD []

def stringsAt (j : Json) (name : String) : Decoded (List String) := listAt decodeString j name

def decodeInt : Json → Decoded Int
  | .int n => .ok n
  | j => j.mismatch "an integer"

end Json

end QueryBridge
