import QueryBridge.Source.Queries

set_option autoImplicit false

namespace QueryBridge.Source.Reader

variable (d : Dialect) (g : Deeper)

def fromItemsText : Reader String := return commaJoin ((← list d (fromItem d g)).map (·.render))

def itemsText : Reader String := return commaJoin ((← list d (item d g)).map (·.render))

def whereText? : Reader (Option String) := whenWord "WHERE" do return "WHERE " ++ (← g.expr).render

def returningText? : Reader (Option String) :=
  whenWord "RETURNING" do return "RETURNING " ++ (← itemsText d g)

def conflictText? : Reader (Option String) := do
  let ways := ["REPLACE", "ROLLBACK", "ABORT", "FAIL", "IGNORE"]
  if ← given (ways.contains (← keyAt 1)) (word "OR") then return some ("OR " ++ (← needOneOf ways))
  if ← word "REPLACE" then return some "OR REPLACE"
  return none

def limitText? : Reader (Option String) := do
  if ← words ["LIMIT", "ALL"] then return none
  whenWord "LIMIT" do return "LIMIT " ++ (← g.expr).render

def columns? : Reader (Option String) := do
  if ← isNext "(" then return some (inParens (identList (← nameList d))) else return none

def assignment : Reader String := do
  let target ← if ← symbol "(" then
      let names ← list d (path d false)
      needSymbol ")"
      pure (inParens (commaJoin (names.map dotted)))
    else pure (dotted (← path d false))
  needSymbol "="
  return target ++ " = " ++ (← g.expr).render

def assignments : Reader String := return "SET " ++ commaJoin (← list d (assignment d g))

def delete : Reader String := do
  let marked ← word "FROM"
  let targets ← if marked || d.valueTables then pure none
    else
      let names ← list d (path d false)
      needWord "FROM"
      pure (some (commaJoin (names.map dotted)))
  let sources ← fromItemsText d g
  let sources := if marked || targets.isSome then "FROM " ++ sources else sources
  let others ← whenWord "USING" do return "USING " ++ (← fromItemsText d g)
  let condition ← whereText? g
  let returning ← returningText? d g
  let order ← whenWords ["ORDER", "BY"] do return "ORDER BY " ++ (← orderText d g)
  let limit ← limitText? g
  return spaced [some "DELETE", targets, some sources, others, condition, returning, order, limit]

def conflictTarget : Reader String := do
  if ← words ["ON", "CONSTRAINT"] then return " ON CONSTRAINT " ++ dotted (← path d false)
  if ← isNext "(" then return inParens (identList (← nameList d))
  return ""

def onConflict : Reader String := do
  if ← words ["DUPLICATE", "KEY", "UPDATE"] then
    return "ON DUPLICATE KEY UPDATE " ++ commaJoin (← list d (assignment d g))
  needWord "CONFLICT"
  let target ← conflictTarget d
  needWord "DO"
  let action ← if ← word "NOTHING" then pure "DO NOTHING"
    else
      needWords ["UPDATE", "SET"]
      let changed ← list d (assignment d g)
      pure ("DO UPDATE SET " ++ commaJoin changed ++ behindBlank (← whereText? g))
  return "ON CONFLICT" ++ target ++ " " ++ action

def fileFormat : Reader String :=
  needOneOf ["AVRO", "JSONFILE", "ORC", "PARQUET", "RCFILE", "SEQUENCEFILE", "TEXTFILE"]

def insert : Reader String := do
  let conflict ← conflictText?
  let overwrite ← word "OVERWRITE"
  let into ← word "INTO"
  let inside ← word "LOCAL"
  if ← word "DIRECTORY" then
    let place ← literalText d
    let format ← whenWords ["STORED", "AS"] do return "STORED AS " ++ (← fileFormat)
    return spaced [some "INSERT", whenTrue overwrite "OVERWRITE", whenTrue inside "LOCAL",
      some ("DIRECTORY '" ++ place ++ "'"), format, some (← g.query).render]
  let table ← word "TABLE"
  let name ← path d false
  let label ← if ← given (d = .postgres) (word "AS") then some <$> Reader.name else pure none
  let target := some (dotted name ++ asIdent label)
  let head := if conflict.isSome then spaced [some "INSERT", conflict, some "INTO", target]
    else spaced [some "INSERT", whenTrue overwrite "OVERWRITE", whenTrue into "INTO",
      whenTrue table "TABLE", target]
  let source ← if ← words ["DEFAULT", "VALUES"] then pure "DEFAULT VALUES"
    else
      let queried := (← isNext "(") && (← keyAt 1) = "SELECT"
      let columns ← if queried then pure none else columns? d
      let partition ← if queried then pure none else whenWord "PARTITION" do
        return "PARTITION " ++ inParens (← parenthesized (listText d g))
      pure (spaced [columns, partition, some (← g.query).render])
  let conflictClause ← whenWord "ON" (onConflict d g)
  let returning ← returningText? d g
  return spaced [some head, some source, conflictClause, returning]

def update : Reader String := do
  let conflict ← conflictText?
  let target ← fromItem d g
  needWord "SET"
  let changed ← assignments d g
  let source ← whenWord "FROM" do return "FROM " ++ (← fromItem d g).render
  let condition ← whereText? g
  let returning ← returningText? d g
  return spaced [some "UPDATE", conflict, some target.render, some changed, source, condition, returning]

def mergeRows : Reader (String × Bool) := do
  if ← word "MATCHED" then return ("MATCHED", false)
  needWords ["NOT", "MATCHED"]
  if ← words ["BY", "SOURCE"] then return ("NOT MATCHED BY SOURCE", false)
  if ← words ["BY", "TARGET"] then return ("NOT MATCHED BY TARGET", true)
  return ("NOT MATCHED", true)

/-- New rows can only be inserted, the others only updated or deleted. -/
def mergeAction (new : Bool) : Reader String := do
  match ← needOneOf ["UPDATE", "INSERT", "DELETE"] with
  | "UPDATE" =>
    if new then refuse
    needWord "SET"
    return "UPDATE SET " ++ commaJoin (← list d (assignment d g))
  | "DELETE" => if new then refuse else return "DELETE"
  | _ =>
    if !new then refuse
    let columns ← columns? d
    let row ← if ← given d.valueTables (word "ROW") then pure "ROW"
      else needWord "VALUES"; valuesText d g
    return spaced [some "INSERT", columns, some row]

def merge : Reader String := do
  let into ← word "INTO"
  let target ← relation d g
  needWord "USING"
  let source ← relation d g
  needWord "ON"
  let condition ← g.expr
  let branches ← many do
    if (← peek).isNone || (← isNext ";") then return none
    needWord "WHEN"
    let (rows, new) ← mergeRows
    let further ← whenWord "AND" do return "AND " ++ (← g.expr).render
    needWord "THEN"
    return some ("WHEN " ++ rows ++ behindBlank further ++ " THEN " ++ (← mergeAction d g new))
  return spaceJoin (["MERGE" ++ (if into then " INTO " else " ") ++ target.render, "USING",
    source.render, "ON", condition.render] ++ if branches.isEmpty then [""] else branches)

end QueryBridge.Source.Reader
