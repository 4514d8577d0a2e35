import QueryBridge.Store.Database
import QueryBridge.Text.Utf8

set_option autoImplicit false

namespace QueryBridge.Store

open Decimal

def toNumber : Cell → Cell
  | .text s => numberOfText (String.ofList (leadingNumber s.toList))
  | .bytes b => numberOfText (String.ofList (leadingNumber (Text.ofUtf8 b).toList))
  | .bool b => .int (if b then 1 else 0)
  | c => c

def toFloat : Cell → Binary64
  | .int n => Binary64.ofInt n.toInt
  | .float x => x
  | _ => ⟨0⟩

def Arithmetic.onInt : Arithmetic → Int → Int → Int
  | add, m, n => m + n
  | subtract, m, n => m - n
  | multiply, m, n => m * n

def Arithmetic.onFloat : Arithmetic → Binary64 → Binary64 → Binary64
  | add, x, y => x.add y
  | subtract, x, y => x.add y.neg
  | multiply, x, y => x.mul y

/-- Integers stay integers where 64 bits hold the result. -/
def Arithmetic.apply (op : Arithmetic) (a b : Cell) : Cell :=
  match toNumber a, toNumber b with
  | .null, _ | _, .null => .null
  | .int m, .int n =>
    let exact := op.onInt m.toInt n.toInt
    if inInt64 exact then .int (Int64.ofInt exact)
    else .float (op.onFloat (Binary64.ofInt m.toInt) (Binary64.ofInt n.toInt))
  | a, b => .float (op.onFloat (toFloat a) (toFloat b))

/-- The least integer has no absolute value. -/
def magnitude (c : Cell) : Except StoreError Cell :=
  match c with
  | .null => .ok .null
  | .int n => if n = Int64.minValue then .error .integerOverflow else .ok (.int n.abs)
  | c =>
    let x := toFloat (toNumber c)
    .ok (.float (if x.negative then x.neg else x))

/-- The affinity of a cast's type decides what its value becomes. -/
def castTo (a : Affinity) (c : Cell) : Cell :=
  match a, c with
  | _, .null => .null
  | .text, .bytes b => .text (Text.ofUtf8 b)
  | .blob, .text s => .bytes s.toUTF8.toList
  | .text, c => stored .text c
  | .blob, c => c
  | .real, c => .float (toFloat (toNumber c))
  | .numeric, c => toNumber c
  | .integer, c =>
    match toNumber c with
    | .float x =>
      let (num, den) := x.signedQuotient
      .int (Int64.ofInt (min (twoTo 63 - 1) (max (-(twoTo 63)) (num.tdiv den))))
    | c => c

abbrev Scope := Option Table

def Scope.column? (scope : Scope) (table : Option String) (name : String) : Option (Nat × ColumnDefinition) :=
  match scope with
  | none => none
  | some t =>
    if (table.map (Text.eqIgnoringAsciiCase · t.name)).getD true then t.column? name else none

structure Situation where
  scope : Scope
  row : Row
  /-- The rows that an aggregate counts. -/
  rows : List Row
  parameters : List Cell

def isAbs (name : String) : Bool := Text.eqIgnoringAsciiCase name "abs"

namespace Term

def check (scope : Scope) (aggregates : Bool) : Term → Except StoreError Unit
  | literal _ | parameter _ => .ok ()
  | column table name maybeText =>
    if (scope.column? table name).isSome || maybeText then .ok () else .error (.noColumn name)
  | arithmetic _ left right => do
    left.check scope aggregates
    right.check scope aggregates
  | negated operand => operand.check scope aggregates
  | rowCount => if aggregates then .ok () else .error (.misplacedAggregate "count")
  | valueCount operand =>
    if aggregates then operand.check scope false else .error (.misplacedAggregate "count")
  | call name [operand] =>
    if isAbs name then operand.check scope aggregates else .error (.noFunction name)
  | call name _ => .error (if isAbs name then .argumentCount name else .noFunction name)
  | cast operand _ => operand.check scope aggregates

def hasAggregate : Term → Bool
  | rowCount | valueCount _ => true
  | arithmetic _ left right => left.hasAggregate || right.hasAggregate
  | negated operand | cast operand _ => operand.hasAggregate
  | call _ [operand] => operand.hasAggregate
  | _ => false

def affinity? (scope : Scope) : Term → Option Affinity
  | column table name _ => (scope.column? table name).map (·.2.affinity)
  | cast _ type => some (Affinity.ofBase (Text.upper type))
  | _ => none

def eval (s : Situation) : Term → Except StoreError Cell
  | literal value => .ok value
  | parameter index =>
    .ok (match s.parameters[index]? with
      | some (.bool b) => .int (if b then 1 else 0)
      | some c => c
      | none => .null)
  | column table name maybeText =>
    match s.scope.column? table name with
    | some (place, _) => .ok (s.row[place]?.getD .null)
    | none => if maybeText then .ok (.text name) else .error (.noColumn name)
  | arithmetic op left right => do return op.apply (← left.eval s) (← right.eval s)
  | negated operand => do return Arithmetic.apply .subtract (.int 0) (← operand.eval s)
  | rowCount => .ok (.int (Int64.ofNat s.rows.length))
  | valueCount operand => do
    let values ← s.rows.mapM fun row => operand.eval { s with row := row }
    return .int (Int64.ofNat (values.filter (· ≠ .null)).length)
  | call _ [operand] => do magnitude (← operand.eval s)
  | call name _ => .error (.noFunction name)
  | cast operand type => do return castTo (Affinity.ofBase (Text.upper type)) (← operand.eval s)

end Term

/-- Null stands before numbers, numbers before texts, texts before bytes. -/
def rank : Cell → Nat
  | .null => 0
  | .bool _ | .int _ | .float _ => 1
  | .text _ => 2
  | .bytes _ => 3

def exactQuotient : Cell → Int × Nat
  | .int n => (n.toInt, 1)
  | .float x => x.signedQuotient
  | _ => (0, 1)

def compareCells (a b : Cell) : Ordering :=
  match a, b with
  | .text s, .text t => compare s t
  | .bytes b, .bytes c => compareOfLessAndEq (b.map UInt8.toNat) (c.map UInt8.toNat)
  | a, b =>
    if rank a = 1 && rank b = 1 then
      let (m, k) := exactQuotient (toNumber a)
      let (n, l) := exactQuotient (toNumber b)
      compare (m * l) (n * k)
    else compare (rank a) (rank b)

def Comparison.holds : Comparison → Ordering → Bool
  | equal, o => o.isEq
  | different, o => !o.isEq
  | less, o => o.isLT
  | atMost, o => o.isLE
  | greater, o => o.isGT
  | atLeast, o => o.isGE

/-- A value next to a column is read as the column would store it. -/
def alignCell (other : Option Affinity) (own : Option Affinity) (c : Cell) : Cell :=
  let isColumnNumeric (a : Option Affinity) : Bool := (a.map Affinity.isNumeric).getD false
  if isColumnNumeric other && !isColumnNumeric own then readAsNumber c
  else if other = some .text && own = none then stored .text c
  else c

namespace Condition

/-- A comparison with null does not hold. -/
def holds (s : Situation) (c : Condition) : Except StoreError Bool := do
  let left ← c.left.eval s
  let right ← c.right.eval s
  if left = .null || right = .null then return false else
  let ofLeft := c.left.affinity? s.scope
  let ofRight := c.right.affinity? s.scope
  return c.comparison.holds (compareCells (alignCell ofRight ofLeft left) (alignCell ofLeft ofRight right))

def allHold (s : Situation) : List Condition → Except StoreError Bool
  | [] => .ok true
  | c :: rest => do if ← c.holds s then allHold s rest else return false

end Condition

end QueryBridge.Store
