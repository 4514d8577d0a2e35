import QueryBridge.Tree.Conjunction

set_option autoImplicit false

namespace QueryBridge

namespace Expr

def name (column : String) : Expr := .column [] column

def qualified (table column : String) : Expr := .column [table] column

def int (n : Int64) : Expr := .literal (.int n)

def float (x : Decimal.Binary64) : Expr := .literal (.float x)

def string (s : String) : Expr := .literal (.string s)

def bool (b : Bool) : Expr := .literal (.bool b)

def null : Expr := .literal .null

def function (name : String) (args : List Expr) : Expr := .call name args false

def countAll : Expr := function "COUNT" [.star []]

def equals (left right : Expr) : Expr := .binary .eq left right

def aliased (e : Expr) (name : String) : SelectItem := ⟨e, some name⟩

end Expr

namespace Relation

def named (table : String) : Relation := .table [table] none

def ofPath (path : List String) : Relation := .table path none

/-- Replaces the whole alias; its columns are gone. -/
def withAlias (name : String) : Relation → Relation
  | .table path _ => .table path (some ⟨name, []⟩)
  | .derived query _ => .derived query (some ⟨name, []⟩)
  | .unnest exprs _ => .unnest exprs (some ⟨name, []⟩)

end Relation

def Select.empty : Select where
  distinct := false
  projection := []
  sources := []
  selection := none
  groupBy := []
  having := none

namespace Query

def ofBody (body : Body) : Query where
  ctes := []
  recursive := false
  body := body
  orderBy := []
  limit := none
  offset := none

def ofSelect (s : Select) : Query := ofBody (.select s)

def empty : Query := ofSelect .empty

def setOperation (op : SetOp) (all : Bool) (left right : Query) : Query :=
  ofBody (.setOp op all (.query left) (.query right))

/-- `SELECT *` from the query. -/
def wrapped (q : Query) : Select :=
  { Select.empty with projection := [⟨.star [], none⟩], sources := [⟨.derived q none, []⟩] }

def mapSelect (f : Select → Select) (q : Query) : Query :=
  match q.body with
  | .select s => { q with body := .select (f s) }
  | _ => ofSelect (f q.wrapped)

def withCte (q : Query) (cte : Cte) : Query := { q with ctes := q.ctes ++ [cte] }

def select (q : Query) (items : List SelectItem) : Query :=
  q.mapSelect fun s => { s with projection := items }

def distinct (q : Query) : Query := q.mapSelect fun s => { s with distinct := true }

def addSource (q : Query) (r : Relation) : Query :=
  q.mapSelect fun s => { s with sources := s.sources ++ [⟨r, []⟩] }

/-- A join goes to the last FROM item; without one its relation becomes the first. -/
def addJoin (join : Join) : List FromItem → List FromItem
  | [] => [⟨join.relation, []⟩]
  | [item] => [{ item with joins := item.joins ++ [join] }]
  | item :: rest => item :: addJoin join rest

def join (q : Query) (type : JoinType) (r : Relation) (constraint : JoinConstraint) : Query :=
  q.mapSelect fun s => { s with sources := addJoin ⟨type, r, constraint⟩ s.sources }

def innerJoin (q : Query) (r : Relation) (condition : Expr) : Query := q.join .inner r (.on condition)

def leftJoin (q : Query) (r : Relation) (condition : Expr) : Query := q.join .left r (.on condition)

/-- A further condition is joined to those already there by AND. -/
def filter (q : Query) (condition : Expr) : Query :=
  q.mapSelect fun s =>
    { s with selection := some (match s.selection with
        | some present => present.and condition
        | none => condition) }

def groupBy (q : Query) (keys : List Expr) : Query := q.mapSelect fun s => { s with groupBy := keys }

def having (q : Query) (condition : Expr) : Query :=
  q.mapSelect fun s => { s with having := some condition }

def withOrder (q : Query) (items : List OrderItem) : Query := { q with orderBy := items }

/-- A count beyond the signed range wraps around. -/
def withLimit (q : Query) (n : UInt64) : Query := { q with limit := some (.int n.toInt64) }

def withOffset (q : Query) (n : UInt64) : Query := { q with offset := some (.int n.toInt64) }

end Query

end QueryBridge
