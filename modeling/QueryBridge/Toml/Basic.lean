set_option autoImplicit false

/-! Values, and tables in the making. How a table came into being decides what may still be added to it:
a table is defined by one header, and tables made by dotted keys or between braces are not defined
again. -/

namespace QueryBridge

inductive TableOrigin where
  | passed
  | dotted
  | headed
  deriving DecidableEq, Repr

inductive Toml where
  | string (s : String)
  | bool (b : Bool)
  /-- What a number denotes is not kept. -/
  | number
  /-- A date, a time or both; what it denotes is not kept. -/
  | date
  | array (items : List Toml)
  | inlineTable (entries : List (String × Toml))
  | table (origin : TableOrigin) (entries : List (String × Toml))
  /-- Tables with one header each. -/
  | tables (items : List (List (String × Toml)))

namespace Toml

abbrev Entries := List (String × Toml)

def headedTable (entries : Entries) : Toml := .table .headed entries

def replace (key : String) (value : Toml) : Entries → Entries
  | [] => []
  | e :: rest => if e.1 = key then (key, value) :: rest else e :: replace key value rest

/-- Changes the value of a key, or adds one; `none` refuses. -/
def alter (key : String) (f : Option Toml → Option Toml) (entries : Entries) : Option Entries :=
  match entries.lookup key with
  | some present => (f (some present)).map fun value => replace key value entries
  | none => (f none).map fun value => entries ++ [(key, value)]

def alterLast {α : Type} (f : α → Option α) : List α → Option (List α)
  | [] => none
  | [x] => (f x).map ([·])
  | x :: rest => (alterLast f rest).map (x :: ·)

/-- Changes the table at the end of a path; of tables with one header each it is the last. Missing tables are made. -/
def within (path : List String) (f : Entries → Option Entries) (entries : Entries) : Option Entries :=
  match path with
  | [] => f entries
  | key :: path =>
    alter key (fun
      | none => (within path f []).map (.table .passed ·)
      | some (.table origin inner) => (within path f inner).map (.table origin ·)
      | some (.tables items) => (alterLast (within path f) items).map .tables
      | some _ => none) entries

/-- A header opens a table that is new or was only passed. -/
def openTable (key : String) (entries : Entries) : Option Entries :=
  alter key (fun
    | none => some (headedTable [])
    | some (.table .passed inner) => some (headedTable inner)
    | some _ => none) entries

/-- A header in double brackets adds a table to those of its name. -/
def appendTable (key : String) (entries : Entries) : Option Entries :=
  alter key (fun
    | none => some (.tables [[]])
    | some (.tables items) => some (.tables (items ++ [[]]))
    | some _ => none) entries

def addEntry (key : String) (value : Toml) : Entries → Option Entries :=
  alter key fun
    | none => some value
    | some _ => none

/-- A value at a dotted key, whose tables are new or made by dotted keys. -/
def addDotted (path : List String) (key : String) (value : Toml) (entries : Entries) : Option Entries :=
  match path with
  | [] => addEntry key value entries
  | step :: path =>
    alter step (fun
      | none => (addDotted path key value []).map (.table .dotted ·)
      | some (.table .dotted inner) => (addDotted path key value inner).map (.table .dotted ·)
      | some (.table .passed inner) =>
        if path.isEmpty then none else (addDotted path key value inner).map (.table .passed ·)
      | some (.tables items) =>
        if path.isEmpty then none else (alterLast (addDotted path key value) items).map .tables
      | some _ => none) entries

end Toml

end QueryBridge
