import QueryBridge.Store.Evaluation

set_option autoImplicit false

/-! Whatever does not depend on the rows of a database is settled before a statement runs: its names,
the number of its values, the columns of its result. Running it yields rows, the last of which may
be a failure, and the database that it leaves. -/

namespace QueryBridge.Store

structure ResultColumn where
  name : String
  /-- The declared type; expressions have none. -/
  type : String
  affinity : Affinity
  value : Term

abbrev RowResult := Except StoreError Row

def ofColumn (c : ColumnDefinition) : ResultColumn :=
  ⟨c.name, c.type, c.affinity, .column none c.name false⟩

/-- The affinity that a table made from a result gives to a term; a cast to any number is numeric. -/
def Term.resultAffinity (scope : Scope) (t : Term) : Affinity :=
  match t with
  | .cast _ _ => (t.affinity? scope).elim .blob fun a => if a.isNumeric then .numeric else a
  | _ => (t.affinity? scope).getD .blob

def ResultItem.columns (scope : Scope) : ResultItem → Except StoreError (List ResultColumn)
  | everyColumn =>
    match scope with
    | some t => .ok (t.columns.map ofColumn)
    | none => .error .noTables
  | term value label source => do
    value.check scope true
    let declared : Option ColumnDefinition := match value with
      | .column table name _ => (scope.column? table name).map (·.2)
      | _ => none
    return [⟨label.getD ((declared.map (·.name)).getD source), (declared.map (·.type)).getD "",
      value.resultAffinity scope, value⟩]

/-- The term that a row is ordered by: a position of the result, an alias, or any other term. -/
def orderTerm (columns : List ResultColumn) (items : List ResultItem) (key : Term) : Except StoreError Term :=
  match key with
  | .literal (.int n) =>
    match (if n ≤ 0 then none else columns[n.toInt.toNat - 1]?) with
    | some c => .ok c.value
    | none => .error (.orderPosition n.toInt.toNat)
  | .column none name _ =>
    let aliased := items.findSome? fun
      | .term value (some label) _ => if Text.eqIgnoringAsciiCase label name then some value else none
      | _ => none
    .ok (aliased.getD key)
  | _ => .ok key

structure Plan where
  scope : Scope
  columns : List ResultColumn
  conditions : List Condition
  order : List OrderKey

namespace Select

def plan (d : Database) (s : Select) : Except StoreError Plan := do
  let scope ← match s.source with
    | some path => some <$> d.tableAt path
    | none => pure none
  let columns := (← s.items.mapM (·.columns scope)).flatten
  s.conditions.forM fun c => do
    c.left.check scope false
    c.right.check scope false
  let order ← s.order.mapM fun k => do
    let key ← orderTerm columns s.items k.key
    key.check scope true
    return ⟨key, k.descending⟩
  return ⟨scope, columns, s.conditions, order⟩

end Select

namespace Plan

def situation (p : Plan) (parameters : List Cell) (row : Row) : Situation := ⟨p.scope, row, [], parameters⟩

/-- A selection without table has one row to look at. -/
def sourceRows (p : Plan) : List Row :=
  match p.scope with
  | some t => t.rows
  | none => [[]]

def matching (p : Plan) (parameters : List Cell) : List Row → List (Except StoreError Row)
  | [] => []
  | row :: rest =>
    match Condition.allHold (p.situation parameters row) p.conditions with
    | .ok true => .ok row :: matching p parameters rest
    | .ok false => matching p parameters rest
    | .error e => [.error e]

def isAggregate (p : Plan) : Bool := p.columns.any (·.value.hasAggregate)

def resultRow (p : Plan) (s : Situation) : RowResult := p.columns.mapM (·.value.eval s)

def upToFailure : List RowResult → List RowResult
  | [] => []
  | .ok row :: rest => .ok row :: upToFailure rest
  | .error e :: _ => [.error e]

def inOrder : List OrderKey → List Cell → List Cell → Bool
  | key :: keys, a :: as, b :: bs =>
    match compareCells a b with
    | .eq => inOrder keys as bs
    | .lt => !key.descending
    | .gt => key.descending
  | _, _, _ => true

def keyed (p : Plan) (parameters : List Cell) (row : Row) : Except StoreError (List Cell × Row) := do
  let s := p.situation parameters row
  return (← p.order.mapM (·.key.eval s), ← p.resultRow s)

def ordered (p : Plan) (parameters : List Cell) (rows : List (Except StoreError Row)) : List RowResult :=
  match rows.mapM (fun row => do p.keyed parameters (← row)) with
  | .ok pairs => (pairs.mergeSort fun a b => inOrder p.order a.1 b.1).map fun pair => .ok pair.2
  | .error e => [.error e]

def run (p : Plan) (parameters : List Cell) : List RowResult :=
  let rows := p.matching parameters p.sourceRows
  if p.isAggregate then
    match rows.mapM id with
    | .ok rows => [p.resultRow { p.situation parameters (rows.getLast?.getD []) with rows := rows }]
    | .error e => [.error e]
  else if p.order.isEmpty then
    upToFailure (rows.map fun row => do p.resultRow (p.situation parameters (← row)))
  else p.ordered parameters rows

end Plan

def freshName (taken : List String) (name : String) (count : Nat) : Nat → String
  | 0 => name
  | fuel + 1 =>
    let candidate := if count = 0 then name else name ++ ":" ++ toString count
    if taken.any (Text.eqIgnoringAsciiCase candidate ·) then freshName taken name (count + 1) fuel else candidate

def columnsOfResult (taken : List String) : List ResultColumn → List ColumnDefinition
  | [] => []
  | c :: rest =>
    let name := freshName taken c.name 0 (taken.length + 1)
    ⟨name, c.affinity.declaredName, false⟩ :: columnsOfResult (name :: taken) rest

def repeated? : List String → Option String
  | [] => none
  | name :: rest => if rest.any (Text.eqIgnoringAsciiCase name ·) then some name else repeated? rest

inductive Prepared where
  | nothing
  | create (table : Table)
  | createFrom (name : String) (rows : Plan)
  | drop (name : String)
  | insert (table : Table) (rows : List (List Term))
  | select (rows : Plan)

/-- Names that are kept for the store itself begin so. -/
def reservedPrefix : String := "sqlite_"

def newName (d : Database) (path : TablePath) (ifMissing : Bool) : Except StoreError (Option String) := do
  let name ← Database.nameAt path
  if Text.eqIgnoringAsciiCase (String.ofList (name.toList.take reservedPrefix.length)) reservedPrefix then
    throw (.reservedName name)
  match d.table? name with
  | none => return some name
  | some _ => if ifMissing then return none else throw (.tableExists name)

def Statement.prepare (d : Database) : Statement → Except StoreError Prepared
  | create path ifMissing columns => do
    match ← newName d path ifMissing with
    | none => return .nothing
    | some name =>
      match repeated? (columns.map (·.name)) with
      | some column => throw (.duplicateColumn column)
      | none => return .create ⟨name, columns, []⟩
  | createFrom path ifMissing rows => do
    match ← newName d path ifMissing with
    | none => return .nothing
    | some name => return .createFrom name (← rows.plan d)
  | drop path ifPresent => do
    let name ← Database.nameAt path
    match d.table? name with
    | some t => return .drop t.name
    | none => if ifPresent then return .nothing else throw (.noTable name)
  | insert path rows => do
    let t ← d.tableAt path
    match rows.find? fun values => values.length ≠ (rows.headD []).length with
    | some _ => throw .unevenRows
    | none =>
      let count := (rows.headD []).length
      if count ≠ t.columns.length then throw (.valueCount t.name t.columns.length count)
      rows.forM fun values => values.forM (·.check none false)
      return .insert t rows
  | select rows => .select <$> rows.plan d

def Prepared.columns : Prepared → List ResultColumn
  | select rows => rows.columns
  | _ => []

def storedRow (t : Table) : List ColumnDefinition → List Cell → Except StoreError Row
  | c :: columns, value :: values => do
    if c.notNull && value = .null then throw (.missingValue t.name c.name)
    return stored c.affinity value :: (← storedRow t columns values)
  | _, _ => return []

def newRow (t : Table) (parameters : List Cell) (values : List Term) : RowResult := do
  let cells ← values.mapM (·.eval ⟨none, [], [], parameters⟩)
  storedRow t t.columns cells

/-- What running a statement yields, and the database after it. A failure leaves the database as it was. -/
def Prepared.run (d : Database) (parameters : List Cell) : Prepared → List RowResult × Database
  | nothing => ([], d)
  | create table => ([], d.add table)
  | createFrom name rows =>
    match (rows.run parameters).mapM id with
    | .error e => ([.error e], d)
    | .ok found =>
      let columns := columnsOfResult [] rows.columns
      let t : Table := ⟨name, columns, []⟩
      match found.mapM (storedRow t columns) with
      | .ok stored => ([], d.add { t with rows := stored })
      | .error e => ([.error e], d)
  | drop name => ([], d.remove name)
  | insert t rows =>
    match rows.mapM (newRow t parameters) with
    | .ok stored => ([], d.setRows t.name (t.rows ++ stored))
    | .error e => ([.error e], d)
  | select rows => (rows.run parameters, d)

end QueryBridge.Store
