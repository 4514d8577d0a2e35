import QueryBridge.Store.Statement
import QueryBridge.Text.Case

set_option autoImplicit false

namespace QueryBridge.Store

open Decimal

structure Table where
  name : String
  columns : List ColumnDefinition
  rows : List Row
  deriving DecidableEq

structure Database where
  tables : List Table
  deriving DecidableEq

def mainName : String := "main"

def ColumnDefinition.affinity (c : ColumnDefinition) : Affinity := Affinity.ofBase (Text.upper c.type)

def leadingNumber (s : List Char) : List Char :=
  let body := s.dropWhile Text.isBlank
  let sign := body.takeWhile fun c => c == '-' || c == '+'
  if sign.length > 1 then [] else
  let digits := body.drop sign.length
  let whole := digits.takeWhile Char.isDigit
  let part := match digits.drop whole.length with
    | '.' :: rest => '.' :: rest.takeWhile Char.isDigit
    | _ => []
  if whole.isEmpty && part.length < 2 then [] else
  let mantissa := whole ++ part
  let exponent := match digits.drop mantissa.length with
    | e :: rest =>
      let mark := rest.takeWhile fun c => c == '-' || c == '+'
      let power := (rest.drop mark.length).takeWhile Char.isDigit
      if (e == 'e' || e == 'E') && mark.length ≤ 1 && !power.isEmpty then e :: mark ++ power else []
    | [] => []
  sign ++ mantissa ++ exponent

def numberOfText (s : String) : Cell :=
  match readInt64? s with
  | some n => .int (Int64.ofInt n)
  | none =>
    match Binary64.ofText? s with
    | some x => .float x
    | none => .int 0

def wholeNumber? (x : Binary64) : Option Int :=
  let (num, den) := x.signedQuotient
  if x.isFinite && num % den = 0 && inInt64 (num / den) then some (num / den) else none

def readAsNumber (c : Cell) : Cell :=
  match c with
  | .text s =>
    let body := Text.trim s
    let number := leadingNumber body.toList
    if !number.isEmpty && number.length = body.length then numberOfText body else c
  | _ => c

def withoutFraction (c : Cell) : Cell :=
  match c with
  | .float x => ((wholeNumber? x).map fun n => Cell.int (Int64.ofInt n)).getD c
  | _ => c

def stored (a : Affinity) (c : Cell) : Cell :=
  match a with
  | .blob => c
  | .text =>
    match c with
    | .int n => .text (toString n.toInt)
    | .float x => .text x.render
    | _ => c
  | .integer | .numeric => withoutFraction (readAsNumber c)
  | .real =>
    match readAsNumber c with
    | .int n => .float (Binary64.ofInt n.toInt)
    | c => c

namespace Table

def column? (t : Table) (name : String) : Option (Nat × ColumnDefinition) :=
  ((List.range t.columns.length).zip t.columns).find? fun c => Text.eqIgnoringAsciiCase c.2.name name

end Table

namespace Database

def empty : Database := ⟨[]⟩

def table? (d : Database) (name : String) : Option Table :=
  d.tables.find? (Text.eqIgnoringAsciiCase ·.name name)

def nameAt (path : TablePath) : Except StoreError String :=
  match path.database with
  | none => .ok path.name
  | some database =>
    if Text.eqIgnoringAsciiCase database mainName then .ok path.name else .error (.noDatabase database)

def tableAt (d : Database) (path : TablePath) : Except StoreError Table := do
  let name ← nameAt path
  match d.table? name with
  | some t => return t
  | none => throw (.noTable name)

def add (d : Database) (t : Table) : Database := ⟨d.tables ++ [t]⟩

def remove (d : Database) (name : String) : Database :=
  ⟨d.tables.filter fun t => !Text.eqIgnoringAsciiCase t.name name⟩

def setRows (d : Database) (name : String) (rows : List Row) : Database :=
  ⟨d.tables.map fun t => if Text.eqIgnoringAsciiCase t.name name then { t with rows := rows } else t⟩

end Database

end QueryBridge.Store
