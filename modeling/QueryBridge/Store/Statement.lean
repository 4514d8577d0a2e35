import QueryBridge.Warehouse.Affinity
import QueryBridge.Warehouse.Cell

set_option autoImplicit false

namespace QueryBridge

inductive StoreError where
  | unexpected (text : String)
  | incomplete
  | unopened
  | foreignFile
  | noTable (name : String)
  | tableExists (name : String)
  | reservedName (name : String)
  | noDatabase (name : String)
  | noColumn (name : String)
  | duplicateColumn (name : String)
  | noFunction (name : String)
  | argumentCount (name : String)
  | misplacedAggregate (name : String)
  | noTables
  | unevenRows
  | valueCount (table : String) (columns values : Nat)
  | orderPosition (position : Nat)
  | parameterCount (given expected : Nat)
  | missingValue (table column : String)
  | integerOverflow
  | noStatement
  deriving DecidableEq, Repr

def StoreError.message : StoreError → String
  | unexpected text => s!"near \"{text}\": syntax error"
  | incomplete => "incomplete input"
  | unopened => "unable to open database file"
  | foreignFile => "file is not a database"
  | noTable name => s!"no such table: {name}"
  | tableExists name => s!"table {name} already exists"
  | reservedName name => s!"object name reserved for internal use: {name}"
  | noDatabase name => s!"unknown database {name}"
  | noColumn name => s!"no such column: {name}"
  | duplicateColumn name => s!"duplicate column name: {name}"
  | noFunction name => s!"no such function: {name}"
  | argumentCount name => s!"wrong number of arguments to function {name}()"
  | misplacedAggregate name => s!"misuse of aggregate function {name}()"
  | noTables => "no tables specified"
  | unevenRows => "all VALUES must have the same number of terms"
  | valueCount table columns values => s!"table {table} has {columns} columns but {values} values were supplied"
  | orderPosition position => s!"ORDER BY term {position} out of range"
  | parameterCount given expected => s!"Invalid parameter count: {given}, expected {expected}"
  | missingValue table column => s!"NOT NULL constraint failed: {table}.{column}"
  | integerOverflow => "integer overflow"
  | noStatement => "bad parameter or other API misuse"

namespace Store

structure TablePath where
  database : Option String
  name : String
  deriving DecidableEq, Repr

inductive Arithmetic where
  | add | subtract | multiply
  deriving DecidableEq, Repr

inductive Term where
  | literal (value : Cell)
  | parameter (index : Nat)
  /-- In double quotes a name that no column has is a text. -/
  | column (table : Option String) (name : String) (maybeText : Bool)
  | arithmetic (op : Arithmetic) (left right : Term)
  | negated (operand : Term)
  | rowCount
  /-- In how many rows the operand has a value. -/
  | valueCount (operand : Term)
  | call (name : String) (arguments : List Term)
  | cast (operand : Term) (type : String)

inductive Comparison where
  | equal | different | less | atMost | greater | atLeast
  deriving DecidableEq, Repr

structure Condition where
  left : Term
  comparison : Comparison
  right : Term

inductive ResultItem where
  | everyColumn
  /-- A term, its alias, and how it is written. -/
  | term (value : Term) (label : Option String) (source : String)

structure OrderKey where
  key : Term
  descending : Bool

structure Select where
  items : List ResultItem
  source : Option TablePath
  conditions : List Condition
  order : List OrderKey

structure ColumnDefinition where
  name : String
  /-- As it was declared; empty without a declaration. -/
  type : String
  notNull : Bool
  deriving DecidableEq, Repr

inductive Statement where
  | create (table : TablePath) (ifMissing : Bool) (columns : List ColumnDefinition)
  | createFrom (table : TablePath) (ifMissing : Bool) (rows : Select)
  | drop (table : TablePath) (ifPresent : Bool)
  | insert (table : TablePath) (rows : List (List Term))
  | select (rows : Select)

end Store

end QueryBridge
