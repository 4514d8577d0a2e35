import QueryBridge.Source.RowPatterns

set_option autoImplicit false

namespace QueryBridge.Source.Reader

variable (d : Dialect) (g : Deeper)

def derived (lateral : Bool) : Reader Relation := do
  let query ← g.query
  needSymbol ")"
  return .derived lateral query (← relationAlias? d)

def valuesText : Reader String := do
  let row : Reader (Bool × String) := do
    let marked ← word "ROW"
    return (marked, inParens (← parenthesized (listText d g)))
  let rows ← list d row
  let lead := if rows.any (·.1) then "ROW" else ""
  return "VALUES " ++ commaJoin (rows.map fun r => lead ++ r.2)

def bareQuery (body : Body) : Query where
  ctes := []
  recursive := false
  body := body
  orderBy := []
  limit := none
  offset := none
  offsetRows := none
  fetch := none
  locks := []
  markup := none

def argsText : Reader String := do
  if ← symbol ")" then return ""
  let args ← list d (arg d g)
  needSymbol ")"
  return commaJoin (args.map (·.render))

def lateralRelation : Reader Relation := do
  if ← symbol "(" then derived d g true
  else
    let name ← path d false
    needSymbol "("
    let args ← argsText d g
    return .phrase ("LATERAL " ++ dotted name ++ inParens args) (← relationAlias? d)

def unnestRelation : Reader Relation := do
  let items ← parenthesized (exprs d g)
  let ordinality ← words ["WITH", "ORDINALITY"]
  let label ← relationAlias? d
  let offset ← given (← word "WITH") (word "OFFSET")
  let offsetAlias ← if offset then columnAlias? else pure none
  return .unnest items ordinality label offset offsetAlias

def fallback? : Reader (Option String) := do
  let found ← if ← word "NULL" then pure (some "NULL")
    else if ← word "ERROR" then pure (some "ERROR")
    else whenWord "DEFAULT" do return "DEFAULT " ++ (← value).render
  if found.isSome then needWord "ON"
  return found

/-- A column that a path into a document fills; columns nest at most as often as there are lexemes. -/
def documentColumnWithin : Nat → Reader String
  | 0 => refuse
  | fuel + 1 => do
    if ← word "NESTED" then
      let _ ← word "PATH"
      let path ← value
      needWord "COLUMNS"
      let columns ← parenthesized (list d (documentColumnWithin fuel))
      return "NESTED PATH " ++ path.render ++ " COLUMNS " ++ inParens (commaJoin columns)
    let n ← name
    if ← word "FOR" then
      needWord "ORDINALITY"
      return n.render ++ " FOR ORDINALITY"
    let t ← type d
    let tested ← word "EXISTS"
    needWord "PATH"
    let path ← value
    let (empty, wrong) ← chain (fun (found : Option String × Option String) => do
      match ← fallback? with
      | none => return none
      | some text =>
        if ← word "EMPTY" then return some (some (text ++ " ON EMPTY"), found.2)
        needWord "ERROR"
        return some (found.1, some (text ++ " ON ERROR"))) (none, none)
    return n.render ++ " " ++ t.text ++ (if tested then " EXISTS" else "") ++ " PATH " ++ path.render
      ++ behindBlank empty ++ behindBlank wrong

def documentTable : Reader Relation := do
  let inner ← parenthesized do
    let document ← g.expr
    needSymbol ","
    let path ← value
    needWord "COLUMNS"
    let column : Reader String := do documentColumnWithin d ((← get).length + 1)
    let columns ← parenthesized (list d column)
    return document.render ++ ", " ++ path.render ++ " COLUMNS" ++ inParens (commaJoin columns)
  return .phrase ("JSON_TABLE" ++ inParens inner) (← relationAlias? d)

def openDocument : Reader Relation := do
  let inner ← parenthesized do
    let document ← g.expr
    let path ← if ← symbol "," then pure (", " ++ (← value).render) else pure ""
    return document.render ++ path
  let column : Reader String := do
    let n ← name
    let t ← type d
    let path ← match ← peek with
      | some (.string (.plain '\'') text) => skip 1; pure (some (marked '\'' text))
      | _ => pure none
    let whole ← whenWord "AS" do needWord "JSON"; return "AS JSON"
    return n.render ++ " " ++ t.text ++ behindBlank path ++ behindBlank whole
  let columns ← whenWord "WITH" do
    return "WITH " ++ inParens (commaJoin (← parenthesized (list d column)))
  return .phrase ("OPENJSON" ++ inParens inner ++ behindBlank columns) (← relationAlias? d)

def asName? (text : String) : Reader String := do
  if ← word "AS" then return text ++ " AS " ++ (← name).render else return text

def pivotValues : Reader String := do
  if ← word "ANY" then
    return "ANY" ++ behindBlank (← whenWords ["ORDER", "BY"] do return "ORDER BY " ++ (← orderText d g))
  if ← subqueryAhead then return (← g.query).render
  return commaJoin (← list d do asName? (← g.expr).render)

def pivot : Reader String := parenthesized do
  let aggregate : Reader String := do
    match ← next with
    | .word n => asName? (← call d g (interval d g) [{ text := n.text }]).render
    | _ => refuse
  let aggregates ← list d aggregate
  needWord "FOR"
  let first ← name
  let more ← many (do if ← symbol "." then some <$> name else return none)
  needWord "IN"
  let values ← parenthesized (pivotValues d g)
  let default ← whenWords ["DEFAULT", "ON", "NULL"] do
    return "DEFAULT ON NULL " ++ inParens (← parenthesized g.expr).render
  return commaJoin aggregates ++ " FOR " ++ dotted (first :: more) ++ " IN " ++ inParens values
    ++ behindBlank default

def unpivot : Reader String := parenthesized do
  let value ← name
  needWord "FOR"
  let label ← name
  needWord "IN"
  return value.render ++ " FOR " ++ label.render ++ " IN " ++ inParens (identList (← nameList d))

def pivoted (r : Relation) : Reader Relation := chain (fun (r : Relation) => do
  match ← oneOf ["PIVOT", "UNPIVOT"] with
  | none => return none
  | some key =>
    let inner ← if key = "PIVOT" then pivot d g else unpivot d
    return some (.phrase (r.render ++ " " ++ key ++ inParens inner) (← relationAlias? d))) r

def namedRelation : Reader Relation := do
  let name ← path d true
  let version ← if ← given d.tableVersions (words ["FOR", "SYSTEM_TIME", "AS", "OF"]) then
      pure (some ("FOR SYSTEM_TIME AS OF " ++ (← g.expr).render))
    else pure none
  let args ← if ← symbol "(" then some <$> argsText d g else pure none
  let ordinality ← words ["WITH", "ORDINALITY"]
  let label ← relationAlias? d
  let hints ← if (← keyAt 0) = "WITH" && (← peekAt 1) = some (.symbol "(") then
      skip 1
      pure (some ("WITH " ++ inParens (← parenthesized (listText d g))))
    else pure none
  let table := Relation.table name args ordinality label ([hints, version].filterMap id)
  let r ← pivoted d g table
  if ← given d.rowPatterns (word "MATCH_RECOGNIZE") then
    let inner ← rowMatching d g
    return .phrase (r.render ++ " MATCH_RECOGNIZE" ++ inParens inner) (← relationAlias? d)
  return r

def hasAlias : Relation → Bool
  | .table _ _ _ label _ | .derived _ _ label | .unnest _ _ label _ _ | .phrase _ label
  | .group _ label => label.isSome

def setAlias (label : AliasName) : Relation → Relation
  | .table name args ordinality _ clauses => .table name args ordinality (some label) clauses
  | .derived lateral query _ => .derived lateral query (some label)
  | .unnest exprs ordinality _ offset offsetAlias => .unnest exprs ordinality (some label) offset offsetAlias
  | .phrase text _ => .phrase text (some label)
  | .group inner _ => .group inner (some label)

def isGroup : Relation → Bool
  | .group _ _ => true
  | _ => false

def groupedRelation (inner : FromItem) : Reader Relation := do
  needSymbol ")"
  if !inner.joins.isEmpty || isGroup inner.relation then
    return .group inner (← relationAlias? d)
  if !d.parenthesizedRelations then refuse
  match ← relationAlias? d with
  | none => return inner.relation
  | some label =>
    if hasAlias inner.relation then refuse
    return setAlias label inner.relation

def constraint (natural : Bool) : Reader Constraint := do
  if natural then return .natural
  if ← word "ON" then return .on (← g.expr)
  if ← word "USING" then return .using (← nameList d)
  return .none

def sidedJoin (all found missing : JoinOperator) : Reader JoinOperator := do
  match ← needOneOf ["OUTER", "SEMI", "ANTI", "JOIN"] with
  | "OUTER" => needWord "JOIN"; return all
  | "SEMI" => needWord "JOIN"; return found
  | "ANTI" => needWord "JOIN"; return missing
  | _ => return all

def joinOperator? : Reader (Option JoinOperator) := do
  match ← keyAt 0 with
  | "INNER" => needWords ["INNER", "JOIN"]; return some .inner
  | "JOIN" => skip 1; return some .inner
  | "LEFT" => skip 1; some <$> sidedJoin .left .leftSemi .leftAnti
  | "RIGHT" => skip 1; some <$> sidedJoin .right .rightSemi .rightAnti
  | "SEMI" => skip 1; needWord "JOIN"; return some .semi
  | "ANTI" => skip 1; needWord "JOIN"; return some .anti
  | "FULL" =>
    skip 1
    let _ ← word "OUTER"
    needWord "JOIN"
    return some .full
  | _ => return none

def join? (relation : Reader Relation) : Reader (Option Join) := do
  let global ← word "GLOBAL"
  let bare (operator : JoinOperator) : Reader (Option Join) := do
    return some { global, operator, relation := ← relation, nearest := none, constraint := .none }
  if ← word "CROSS" then
    if (← needOneOf ["JOIN", "APPLY"]) = "JOIN" then bare .cross else bare .crossApply
  else if ← word "OUTER" then
    needWord "APPLY"
    bare .outerApply
  else if ← word "ASOF" then
    needWord "JOIN"
    let r ← relation
    needWord "MATCH_CONDITION"
    let nearest ← parenthesized g.expr
    return some { global, operator := .asOf, relation := r, nearest := some nearest,
                  constraint := ← constraint d g false }
  else
    let natural ← word "NATURAL"
    match ← joinOperator? with
    | some operator =>
      let r ← relation
      return some { global, operator, relation := r, nearest := none,
                    constraint := ← constraint d g natural }
    | none => if natural then refuse else return none

def fromItemOf (relation : Reader Relation) : Reader FromItem := do
  let r ← relation
  return { relation := r, joins := ← many (join? d g relation) }

/-- A relation; parentheses nest at most as often as there are lexemes. -/
def relationWithin : Nat → Reader Relation
  | 0 => refuse
  | fuel + 1 => do
    if ← word "LATERAL" then lateralRelation d g
    else if ← word "TABLE" then
      let e ← parenthesized g.expr
      return .phrase ("TABLE" ++ inParens e.render) (← relationAlias? d)
    else if ← symbol "(" then
      match ← attempt (derived d g false) with
      | some r => pivoted d g r
      | none => groupedRelation d (← fromItemOf d g (relationWithin fuel))
    else if d.bareValues && (← opens "VALUES") then
      skip 1
      let text ← valuesText d g
      return .derived false (bareQuery (.phrase text)) (← relationAlias? d)
    else if ← given d.unnestRelations (word "UNNEST") then unnestRelation d g
    else if ← opens "JSON_TABLE" then skip 1; documentTable d g
    else if ← opens "OPENJSON" then skip 1; openDocument d g
    else namedRelation d g
where
  opens (key : String) : Reader Bool :=
    return (← keyAt 0) = key && (← peekAt 1) = some (.symbol "(")

def relation : Reader Relation := do relationWithin d g ((← get).length + 1)

def fromItem : Reader FromItem := fromItemOf d g (relation d g)

end QueryBridge.Source.Reader
