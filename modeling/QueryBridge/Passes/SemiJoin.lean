import QueryBridge.Tree.Builder
import QueryBridge.Tree.Nodes
import QueryBridge.Tree.Relations

set_option autoImplicit false

/-! An EXISTS whose only link to the surrounding SELECT is a set of equalities is a semi-join. It
becomes an inner join with the distinct keys of the subquery:

`WHERE EXISTS (SELECT 1 FROM items AS i WHERE i.k = o.k AND i.n > 1)` becomes `INNER JOIN (SELECT
DISTINCT i.k AS __corr_0 FROM items AS i WHERE i.n > 1) AS __exists_0 ON o.k = __exists_0.__corr_0`. -/

namespace QueryBridge.Passes

def corrName (i : Nat) : String := s!"__corr_{i}"

def existsName (i : Nat) : String := s!"__exists_{i}"

def namesInScope : Scoping (List String) where
  enterQuery names q := names ++ ((q.select?.map fun s => relationNames s.sources).getD [])
  enterSelect names s := names ++ relationNames s.sources

def qualifier? : Expr → Option (List String)
  | .column qualifier _ | .star qualifier => some qualifier
  | _ => none

def isUnbound (names : List String) (e : Expr) : Bool :=
  match qualifier? e with
  | some qualifier => !qualifier.isEmpty && !qualifier.any fun part => names.contains part
  | none => false

/-- Some reference has a qualifier that no enclosing FROM clause of the query binds. -/
def hasUnboundQualifier (q : Query) : Bool :=
  (q.occurrences namesInScope []).any fun o => isUnbound o.1 o.2

structure Sides where
  outer : List String
  inner : List String

def Sides.isOuter (s : Sides) (qualifier : List String) : Bool :=
  qualifier.getLast?.any fun name => s.outer.contains name && !s.inner.contains name

def Sides.onlyOuter (s : Sides) (e : Expr) : Bool :=
  !e.columnQualifiers.isEmpty && e.columnQualifiers.all s.isOuter

def Sides.noOuter (s : Sides) (e : Expr) : Bool := !e.columnQualifiers.any s.isOuter

structure Key where
  inner : Expr
  outer : Expr

def Sides.key? (s : Sides) : Expr → Option Key
  | .binary .eq left right =>
    if s.onlyOuter left && s.noOuter right then some ⟨right, left⟩
    else if s.onlyOuter right && s.noOuter left then some ⟨left, right⟩
    else none
  | _ => none

def Sides.keys (s : Sides) (conjuncts : List Expr) : List Key := conjuncts.filterMap s.key?

def Sides.others (s : Sides) (conjuncts : List Expr) : List Expr :=
  conjuncts.filter fun e => (s.key? e).isNone

/-- A query of a SELECT without grouping and of nothing around it. -/
def plainSelect? (q : Query) : Option Select :=
  if q.ctes.isEmpty && q.orderBy.isEmpty && q.limit.isNone && q.offset.isNone then
    q.select?.filter fun s => !s.sources.isEmpty && s.groupBy.isEmpty && s.having.isNone
  else none

def keyItems (keys : List Key) : List SelectItem :=
  keys.mapIdx fun i key => key.inner.aliased (corrName i)

/-- The distinct keys of the subquery, under the conditions that are no keys. -/
def keyQuery (s : Select) (keys : List Key) (others : List Expr) : Query :=
  .ofSelect { Select.empty with
    distinct := true, projection := keyItems keys, sources := s.sources
    selection := Expr.conjunction? others }

def keyConditions (label : String) (keys : List Key) : List Expr :=
  keys.mapIdx fun i key => key.outer.equals (.qualified label (corrName i))

/-- The join that a subquery of EXISTS is worth in a SELECT over the relations `outer`. -/
def semiJoin? (label : String) (outer : List String) (q : Query) : Option Join := do
  let s ← plainSelect? q
  let sides : Sides := ⟨outer, relationNames s.sources⟩
  let conjuncts := (s.selection.map Expr.conjuncts).getD []
  let keys := sides.keys conjuncts
  let condition ← Expr.conjunction? (keyConditions label keys)
  let derived := keyQuery s keys (sides.others conjuncts)
  if hasUnboundQualifier derived then none
  else some ⟨.inner, .derived derived (some ⟨label, []⟩), .on condition⟩

/-- Divides conjuncts into joins and those that stay; the state counts the joins made so far. -/
def convert (outer : List String) : List Expr → StateM Nat (List Join × List Expr)
  | [] => return ([], [])
  | e :: rest => do
    let join? ← match e with
      | .exists q false => do
        match semiJoin? (existsName (← get)) outer q with
        | some join =>
          modify (· + 1)
          pure (some join)
        | none => pure none
      | _ => pure none
    let (joins, kept) ← convert outer rest
    match join? with
    | some join => return (join :: joins, kept)
    | none => return (joins, e :: kept)

/-- A star without qualifier would also take in the keys of a join. -/
def hasBareStar (s : Select) : Bool :=
  s.projection.any fun item => match item.expr with
    | .star [] => true
    | _ => false

def decorrelateSelect (s : Select) : StateM Nat Select := do
  match s.sources, s.selection with
  | [item], some condition =>
    if hasBareStar s then return s
    let (joins, kept) ← convert (relationNames s.sources) condition.conjuncts
    if joins.isEmpty then return s
    return { s with
      sources := [{ item with joins := item.joins ++ joins }], selection := Expr.conjunction? kept }
  | _, _ => return s

def decorrelated : Rewrite (StateM Nat) Unit :=
  { Rewrite.identity (StateM Nat) .unscoped with leaveSelect := fun _ s => decorrelateSelect s }

/-- Joins are numbered in the order in which their SELECTs are left. -/
def decorrelate (q : Query) : Query := ((q.rewrite decorrelated ()).run 0).1

end QueryBridge.Passes
