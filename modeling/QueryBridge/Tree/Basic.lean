import QueryBridge.Decimal.Binary64
import QueryBridge.Types.DataType

set_option autoImplicit false

/-! The form between reading and emission. A construct without a node of its own is kept as
`unsupported`: it can be inspected and rewritten, but not emitted. -/

namespace QueryBridge

inductive Literal where
  | int (value : Int64)
  | float (value : Decimal.Binary64)
  /-- An exact number kept as it was written. -/
  | decimal (text : String)
  | string (value : String)
  | bool (value : Bool)
  | null
  /-- A bind parameter, kept as it was written. -/
  | placeholder (text : String)
  deriving DecidableEq

inductive BinaryOp where
  | eq | ne | lt | gt | lte | gte | and | or | plus | minus | mul | div | mod | concat
  deriving DecidableEq, Repr

inductive SortDir where
  | asc | desc
  deriving DecidableEq, Repr

inductive NullsOrder where
  | first | last
  deriving DecidableEq, Repr

inductive JoinType where
  | inner | left | right | full | cross
  deriving DecidableEq, Repr

inductive SetOp where
  | union | intersect | except
  deriving DecidableEq, Repr

/-- `AS name (column, ..)`; the column list may be empty. -/
structure TableAlias where
  name : String
  columns : List String
  deriving DecidableEq

mutual

inductive Expr where
  | column (qualifier : List String) (name : String)
  | literal (value : Literal)
  | binary (op : BinaryOp) (left right : Expr)
  | not (operand : Expr)
  | neg (operand : Expr)
  | call (function : String) (args : List Expr) (distinct : Bool)
  /-- A function written without parentheses, such as `CURRENT_DATE`. -/
  | keyword (word : String)
  | case (operand : Option Expr) (branches : List (Expr × Expr)) (otherwise : Option Expr)
  | subquery (query : Query)
  | exists (query : Query) (negated : Bool)
  | inList (operand : Expr) (values : List Expr) (negated : Bool)
  | inQuery (operand : Expr) (query : Query) (negated : Bool)
  | between (operand low high : Expr) (negated : Bool)
  | isNull (operand : Expr) (negated : Bool)
  | like (operand pattern : Expr) (negated : Bool)
  | cast (operand : Expr) (type : DataType)
  /-- Element access; the index counts from one. -/
  | index (array index : Expr)
  | array (items : List Expr)
  | star (qualifier : List String)
  | paren (inner : Expr)
  | unsupported (detail : String)

structure SelectItem where
  expr : Expr
  label : Option String

inductive Relation where
  | table (name : List String) (label : Option TableAlias)
  | derived (query : Query) (label : Option TableAlias)
  | unnest (exprs : List Expr) (label : Option TableAlias)

inductive JoinConstraint where
  | on (condition : Expr)
  | using (columns : List String)
  | none

structure Join where
  type : JoinType
  relation : Relation
  constraint : JoinConstraint

structure FromItem where
  relation : Relation
  joins : List Join

structure Select where
  distinct : Bool
  projection : List SelectItem
  sources : List FromItem
  selection : Option Expr
  groupBy : List Expr
  having : Option Expr

inductive Body where
  | select (select : Select)
  | setOp (op : SetOp) (all : Bool) (left right : Body)
  | query (query : Query)

structure OrderItem where
  expr : Expr
  dir : Option SortDir
  nulls : Option NullsOrder

structure Cte where
  name : String
  columns : List String
  query : Query

structure Query where
  ctes : List Cte
  recursive : Bool
  body : Body
  orderBy : List OrderItem
  limit : Option Expr
  offset : Option Expr

end

end QueryBridge
