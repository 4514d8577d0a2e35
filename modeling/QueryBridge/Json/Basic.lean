import QueryBridge.Decimal.Binary64

set_option autoImplicit false

/-! A document as far as it can be read. Where the text breaks off, the tree says so in that place:
whoever decodes a document from left to right meets a fault of its text and a fault of its content
in the order in which they stand there. -/

namespace QueryBridge

/-- Why a text is no document. -/
inductive JsonFault where
  | malformed
  | truncated
  | cutWord
  | cutNumber
  deriving DecidableEq, Repr

/-- Members keep their order and may repeat; their keys are strings in every document without fault. -/
inductive Json where
  | null
  | bool (b : Bool)
  | int (n : Int)
  | float (x : Decimal.Binary64)
  | string (s : String)
  | array (items : List Json) (stop : Option JsonFault)
  | object (members : List (Json × Json)) (stop : Option JsonFault)
  /-- A number or string that is well formed and denotes nothing. -/
  | unreadable
  | broken (fault : JsonFault)

namespace Json

instance : Inhabited Json := ⟨null⟩

def list (items : List Json) : Json := .array items none

def record (members : List (String × Json)) : Json :=
  .object (members.map fun m => (.string m.1, m.2)) none

def strings (items : List String) : Json := list (items.map .string)

def ofOption {α : Type} (f : α → Json) : Option α → Json
  | none => .null
  | some x => f x

def optionalMember (key : String) : Option String → List (String × Json)
  | none => []
  | some s => [(key, .string s)]

end Json

end QueryBridge
