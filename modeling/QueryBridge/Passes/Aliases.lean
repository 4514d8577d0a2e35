import QueryBridge.Tree.Relations
import QueryBridge.Tree.Traversal

set_option autoImplicit false

namespace QueryBridge.Passes

/-- The paths of the tables of all enclosing FROM clauses; a query sees those of its own SELECT. -/
def pathsInScope : Scoping (List (List String)) where
  enterQuery paths q := paths ++ ((q.select?.map fun s => tablePaths s.sources).getD [])
  enterSelect paths s := paths ++ tablePaths s.sources

def spellsTable (paths : List (List String)) (qualifier : List String) : Bool :=
  1 < qualifier.length && paths.any fun path => qualifier.isSuffixOf path

def shorten (paths : List (List String)) (qualifier : List String) : List String :=
  if spellsTable paths qualifier then qualifier.drop (qualifier.length - 1) else qualifier

def shortenLeaf (paths : List (List String)) : Expr → Expr
  | .column qualifier name => .column (shorten paths qualifier) name
  | .star qualifier => .star (shorten paths qualifier)
  | e => e

def shortQualifiers : Rewrite Id (List (List String)) :=
  { Rewrite.identity Id pathsInScope with leaf := shortenLeaf }

/-- A qualifier that spells the end of the path of a table in scope is cut down to its last part; others, such as paths
into a record, stay. -/
def removeCatalogPrefix (q : Query) : Query := q.rewrite shortQualifiers []

def isStar : Expr → Bool
  | .star _ => true
  | _ => false

def namesColumns (s : Select) (columns : List String) : Bool :=
  s.projection.length == columns.length && !s.projection.any (isStar ·.expr)

def aliasItems (columns : List String) (s : Select) : Select :=
  { s with projection := List.zipWith (fun item column => ⟨item.expr, some column⟩) s.projection columns }

def pushAliases : Relation → Relation
  | .derived q (some ⟨name, columns⟩) =>
    if !columns.isEmpty && namesColumns q.leftmost columns then
      .derived (q.mapLeftmost (aliasItems columns)) (some ⟨name, []⟩)
    else .derived q (some ⟨name, columns⟩)
  | r => r

def pushedAliases : Rewrite Id Unit :=
  { Rewrite.identity Id .unscoped with leaveRelation := fun _ r => pushAliases r }

/-- `(SELECT a, b FROM t) AS s (x, y)` becomes `(SELECT a AS x, b AS y FROM t) AS s`, if the leftmost SELECT lists as
many columns as there are aliases, and no star among them. -/
def removeColumnAliases (q : Query) : Query := q.rewrite pushedAliases ()

structure ElementName where
  relation : String
  column : String
  deriving DecidableEq

def elementName? : Relation → Option ElementName
  | .unnest [_] (some ⟨name, [column]⟩) => some ⟨name, column⟩
  | _ => none

def elementNames (s : Select) : List ElementName := s.relations.filterMap elementName?

def renameLeaf (names : List ElementName) : Expr → Expr
  | .column [relation] column =>
    if names.contains ⟨relation, column⟩ then .column [] column else .column [relation] column
  | e => e

def renameRelation (names : List ElementName) : Relation → Relation
  | .unnest [e] (some ⟨name, [column]⟩) =>
    if names.contains ⟨name, column⟩ then .unnest [e] (some ⟨column, []⟩)
    else .unnest [e] (some ⟨name, [column]⟩)
  | r => r

def renamed (names : List ElementName) : Rewrite Id Unit :=
  { Rewrite.identity Id .unscoped with
    leaf := fun _ e => renameLeaf names e
    leaveRelation := fun _ r => renameRelation names r }

def renameOrder (names : List ElementName) (q : Query) : Query :=
  if names.isEmpty then q else { q with orderBy := rewriteOrder (m := Id) (renamed names) () q.orderBy }

def renameSelect (names : List ElementName) (s : Select) : Select :=
  if names.isEmpty then s else s.rewrite (renamed names) ()

def renamedElements : Rewrite Id Unit :=
  { Rewrite.identity Id .unscoped with
    leaveQuery := fun _ before q => renameOrder ((before.select?.map elementNames).getD []) q
    leaveSelect := fun _ s => renameSelect (elementNames s) s }

/-- `UNNEST(..) AS u (x)` becomes `UNNEST(..) AS x`, and `u.x` becomes `x` in the SELECT and in the ORDER BY of its
query. -/
def renameUnnested (q : Query) : Query := q.rewrite renamedElements ()

end QueryBridge.Passes
