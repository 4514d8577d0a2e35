import QueryBridge.Json.Decode

set_option autoImplicit false

namespace QueryBridge

def Ascending (entries : List (String × String)) : Prop := entries.Pairwise fun a b => a.1 < b.1

structure Properties where
  entries : List (String × String)
  ascending : Ascending entries

namespace Properties

def empty : Properties := ⟨[], List.Pairwise.nil⟩

instance : DecidableEq Properties := fun a b =>
  decidable_of_iff (a.entries = b.entries) ⟨by cases a; cases b; simp, congrArg entries⟩

/-- Puts an entry in its place; one of the same name is replaced. -/
def insertEntry (name value : String) : List (String × String) → List (String × String)
  | [] => [(name, value)]
  | e :: rest =>
    if name < e.1 then (name, value) :: e :: rest
    else if e.1 < name then e :: insertEntry name value rest
    else (name, value) :: rest

theorem mem_insertEntry {name value : String} {entries : List (String × String)} {e : String × String}
    (h : e ∈ insertEntry name value entries) : e.1 = name ∨ e ∈ entries := by
  induction entries with
  | nil => simp_all [insertEntry]
  | cons f rest ih =>
    unfold insertEntry at h
    split at h
    · simp at h; rcases h with rfl | h <;> simp_all
    · split at h
      · rcases List.mem_cons.1 h with rfl | h
        · simp
        · rcases ih h with h | h <;> simp [h]
      · rcases List.mem_cons.1 h with rfl | h <;> simp_all

theorem ascending_insertEntry (name value : String) {entries : List (String × String)}
    (h : Ascending entries) : Ascending (insertEntry name value entries) := by
  induction entries with
  | nil => simp [insertEntry, Ascending]
  | cons f rest ih =>
    obtain ⟨first, others⟩ := List.pairwise_cons.1 h
    unfold insertEntry
    split
    · rename_i less
      refine List.pairwise_cons.2 ⟨fun e he => ?_, h⟩
      rcases List.mem_cons.1 he with rfl | he
      · exact less
      · exact String.lt_trans less (first e he)
    · split
      · rename_i more
        refine List.pairwise_cons.2 ⟨fun e he => ?_, ih others⟩
        rcases mem_insertEntry he with same | he
        · exact same ▸ more
        · exact first e he
      · rename_i notLess notMore
        have same : name = f.1 := String.le_antisymm (String.not_lt.1 notMore) (String.not_lt.1 notLess)
        exact List.pairwise_cons.2 ⟨fun e he => same ▸ first e he, others⟩

def insert (p : Properties) (name value : String) : Properties :=
  ⟨insertEntry name value p.entries, ascending_insertEntry name value p.ascending⟩

def find? (p : Properties) (name : String) : Option String := p.entries.lookup name

end Properties

inductive ManifestError where
  | emptyEnumName
  | unparsable (e : JsonError)
  | unread (cause : String)
  deriving DecidableEq, Repr

def ManifestError.message : ManifestError → String
  | emptyEnumName => "Enum definition name must not be empty"
  | unparsable e => "Failed to parse manifest: " ++ e.message
  | unread cause => "Failed to read manifest: " ++ cause

structure EnumValue where
  name : String
  value : Option String
  properties : Properties
  deriving DecidableEq

structure EnumDefinition where
  name : String
  values : List EnumValue
  properties : Properties
  named : name ≠ ""
  deriving DecidableEq

namespace EnumDefinition

def make (name : String) (values : List EnumValue) (properties : Properties) :
    Except ManifestError EnumDefinition :=
  if named : name ≠ "" then .ok ⟨name, values, properties, named⟩ else .error .emptyEnumName

def value? (d : EnumDefinition) (name : String) : Option EnumValue := d.values.find? (·.name == name)

end EnumDefinition

structure ModelColumn where
  name : String
  type : String
  relationship : Option String
  isCalculated : Bool
  notNull : Bool
  expression : Option String
  deriving DecidableEq

structure Model where
  name : String
  refSql : String
  columns : List ModelColumn
  primaryKey : Option String
  deriving DecidableEq

def Model.column? (m : Model) (name : String) : Option ModelColumn := m.columns.find? (·.name == name)

inductive Cardinality where
  | oneToOne | oneToMany | manyToOne | manyToMany
  deriving DecidableEq, Repr

structure Relationship where
  name : String
  models : List String
  joinType : Cardinality
  condition : String
  deriving DecidableEq

structure Manifest where
  models : List Model
  relationships : List Relationship
  enums : List EnumDefinition
  deriving DecidableEq

namespace Manifest

def empty : Manifest := ⟨[], [], []⟩

def model? (m : Manifest) (name : String) : Option Model := m.models.find? (·.name == name)

def relationship? (m : Manifest) (name : String) : Option Relationship :=
  m.relationships.find? (·.name == name)

def enum? (m : Manifest) (name : String) : Option EnumDefinition := m.enums.find? (·.name == name)

end Manifest

end QueryBridge
