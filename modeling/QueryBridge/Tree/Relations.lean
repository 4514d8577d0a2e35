import QueryBridge.Tree.Basic

set_option autoImplicit false

namespace QueryBridge

def Relation.label? : Relation → Option TableAlias
  | .table _ a | .derived _ a | .unnest _ a => a

/-- The alias, or else the last part of a table's path. -/
def Relation.referenceName? (r : Relation) : Option String :=
  match r.label?, r with
  | some a, _ => some a.name
  | none, .table path _ => path.getLast?
  | none, _ => none

def FromItem.relations (item : FromItem) : List Relation := item.relation :: item.joins.map (·.relation)

def Select.relations (s : Select) : List Relation := s.sources.flatMap (·.relations)

def relationNames (sources : List FromItem) : List String :=
  (sources.flatMap (·.relations)).filterMap (·.referenceName?)

def tablePaths (sources : List FromItem) : List (List String) :=
  (sources.flatMap (·.relations)).filterMap fun
    | .table path _ => some path
    | _ => none

def Query.select? (q : Query) : Option Select :=
  match q.body with
  | .select s => some s
  | _ => none

mutual

/-- The leftmost SELECT, whose projection names the columns. -/
def Body.leftmost : Body → Select
  | .select s => s
  | .setOp _ _ left _ => left.leftmost
  | .query q => q.leftmost

def Query.leftmost : Query → Select
  | ⟨_, _, body, _, _, _⟩ => body.leftmost

end

mutual

def Body.mapLeftmost (f : Select → Select) : Body → Body
  | .select s => .select (f s)
  | .setOp op all left right => .setOp op all (left.mapLeftmost f) right
  | .query q => .query (q.mapLeftmost f)

def Query.mapLeftmost (f : Select → Select) : Query → Query
  | ⟨ctes, recursive, body, orderBy, limit, offset⟩ =>
    ⟨ctes, recursive, body.mapLeftmost f, orderBy, limit, offset⟩

end

def Expr.columnQualifier? : Expr → Option String
  | .column qualifier _ => qualifier.getLast?
  | _ => none

end QueryBridge
