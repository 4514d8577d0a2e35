import QueryBridge.Source.Lexeme
import QueryBridge.Tree.Basic

set_option autoImplicit false

/-! A statement as it was written, before names are resolved. A construct that no query tree can hold is
kept as `phrase`, its normal form: keywords in upper case, single spaces, names as written. -/

namespace QueryBridge.Source

inductive Value where
  | number (text : String) (long : Bool)
  | string (form : StringForm) (text : String)
  | bool (value : Bool)
  | null
  | placeholder (text : String)
  deriving DecidableEq

inductive Operator where
  | known (op : BinaryOp)
  | other (text : String)
  deriving DecidableEq

inductive Sign where
  | not | minus | plus
  | other (text : String)
  deriving DecidableEq

inductive CastKind where
  | cast | tryCast | safeCast | doubleColon
  deriving DecidableEq, Repr

inductive NullTreatment where
  | respect | ignore
  deriving DecidableEq, Repr

inductive Quantifier where
  | all | distinct | byName | allByName | distinctByName
  deriving DecidableEq, Repr

/-- A column of an alias, with its type in normal form. -/
structure AliasColumn where
  name : Ident
  type : Option String
  deriving DecidableEq

structure AliasName where
  name : Ident
  columns : List AliasColumn
  deriving DecidableEq

inductive JoinOperator where
  | inner | left | right | full | cross | crossApply | outerApply
  | semi | leftSemi | rightSemi | anti | leftAnti | rightAnti | asOf
  deriving DecidableEq, Repr

mutual

inductive Expr where
  | ident (name : Ident)
  | path (parts : List Ident)
  | value (value : Value)
  | binary (op : Operator) (left right : Expr)
  | signed (sign : Sign) (operand : Expr)
  | nested (inner : Expr)
  | call (call : Call)
  | case (operand : Option Expr) (branches : List (Expr × Expr)) (otherwise : Option Expr)
  | subquery (query : Query)
  | exists (query : Query) (negated : Bool)
  | inList (operand : Expr) (values : List Expr) (negated : Bool)
  | inQuery (operand : Expr) (query : Query) (negated : Bool)
  | between (operand low high : Expr) (negated : Bool)
  | isNull (operand : Expr) (negated : Bool)
  | like (operand pattern : Expr) (negated any : Bool) (escape : Option String)
  /-- `type` and `format` are in normal form. -/
  | cast (kind : CastKind) (operand : Expr) (type : String) (format : Option String)
  | array (named : Bool) (items : List Expr)
  | element (array index : Expr)
  /-- The bounds and the step stand in normal form. -/
  | slice (array : Expr) (bounds : String)
  | phrase (text : String)

inductive Arg where
  | expr (value : Expr)
  | star
  | pathStar (path : List Ident)
  | named (text : String)

inductive Args where
  | none
  | query (query : Query)
  /-- `clauses` are the clauses behind the arguments, in normal form. -/
  | list (treatment : Option Quantifier) (args : List Arg) (clauses : List String)

/-- `filter`, `withinGroup` and `windowed` are the clauses behind a call, in normal form. A call in
braces stands behind `FN`. -/
structure Call where
  name : List Ident
  args : Args
  withinGroup : Option String
  filter : Option String
  nulls : Option NullTreatment
  windowed : Option String
  braced : Bool

inductive Item where
  | expr (value : Expr) (label : Option Ident)
  /-- `options` are those behind the star, such as `EXCEPT (a)`, in normal form. -/
  | star (options : List String)
  | pathStar (path : List Ident) (options : List String)

inductive Relation where
  /-- `args` are those of a table function, `clauses` what stands behind the alias, in normal form. -/
  | table (name : List Ident) (args : Option String) (ordinality : Bool)
      (label : Option AliasName) (clauses : List String)
  | derived (lateral : Bool) (query : Query) (label : Option AliasName)
  | unnest (exprs : List Expr) (ordinality : Bool) (label : Option AliasName) (offset : Bool)
      (offsetAlias : Option Ident)
  | phrase (text : String) (label : Option AliasName)
  | group (inner : FromItem) (label : Option AliasName)

inductive Constraint where
  | on (condition : Expr)
  | using (columns : List Ident)
  | natural
  | none

/-- `nearest` is the condition by which a join finds the nearest row. -/
structure Join where
  global : Bool
  operator : JoinOperator
  relation : Relation
  nearest : Option Expr
  constraint : Constraint

structure FromItem where
  relation : Relation
  joins : List Join

inductive Distinct where
  | all
  | distinct
  | on (keys : List Expr)

inductive Grouping where
  | by (keys : List Expr)
  | all

/-- `mode`, `top`, `into`, `views`, `tail`, `windows`, `qualify` and `hierarchy` are clauses in
normal form. -/
structure Select where
  mode : Option String
  distinct : Distinct
  top : Option String
  items : List Item
  into : Option String
  sources : List FromItem
  views : List String
  selection : Option Expr
  grouping : Grouping
  /-- Clauses between grouping and HAVING. -/
  tail : List String
  having : Option Expr
  windows : Option String
  qualify : Option String
  windowsFirst : Bool
  hierarchy : Option String

inductive Body where
  | select (select : Select)
  | setOp (op : SetOp) (quantifier : Option Quantifier) (left right : Body)
  | query (query : Query)
  | phrase (text : String)

structure OrderItem where
  expr : Expr
  ascending : Option Bool
  nullsFirst : Option Bool

/-- `materialized` and `source` are in normal form. -/
structure Cte where
  label : AliasName
  materialized : Option String
  query : Query
  source : Option Ident

/-- `fetch`, `locks` and `markup` are clauses in normal form. -/
structure Query where
  ctes : List Cte
  recursive : Bool
  body : Body
  orderBy : List OrderItem
  limit : Option Expr
  offset : Option Expr
  offsetRows : Option String
  fetch : Option String
  locks : List String
  /-- The form in which the rows are asked for, such as `FOR JSON AUTO`. -/
  markup : Option String

end

/-- A statement that is not a query is kept in normal form. -/
inductive Statement where
  | query (query : Query)
  | other (text : String)

end QueryBridge.Source
