import QueryBridge.Source.Columns

set_option autoImplicit false

namespace QueryBridge.Source.Reader

variable (d : Dialect) (g : Deeper)

def delimiters : Reader (List String) := do
  let mark (text : String) : Reader (Option String) := return some (text ++ " " ++ (← name).render)
  many do
    if ← words ["FIELDS", "TERMINATED", "BY"] then
      let field ← mark "FIELDS TERMINATED BY"
      let escape ← if ← words ["ESCAPED", "BY"] then mark "ESCAPED BY" else pure none
      return some (spaced [field, escape])
    if ← words ["COLLECTION", "ITEMS", "TERMINATED", "BY"] then mark "COLLECTION ITEMS TERMINATED BY"
    else if ← words ["MAP", "KEYS", "TERMINATED", "BY"] then mark "MAP KEYS TERMINATED BY"
    else if ← words ["LINES", "TERMINATED", "BY"] then mark "LINES TERMINATED BY"
    else if ← words ["NULL", "DEFINED", "AS"] then mark "NULL DEFINED AS"
    else
      let _ ← oneOf ["FIELDS", "COLLECTION", "MAP", "LINES", "NULL"]
      return none

structure Storage where
  rows : Option String := none
  formats : Option String := none
  file : Option String := none
  properties : Option String := none
  location : Option String := none

def storage : Reader Storage := chain (fun (s : Storage) => do
  if ← words ["WITH", "SERDEPROPERTIES"] then
    return some { s with properties := some ("WITH SERDEPROPERTIES " ++ (← settingList d g)) }
  match ← oneOf ["ROW", "STORED", "LOCATION"] with
  | some "ROW" =>
    needWord "FORMAT"
    if ← word "SERDE" then
      return some { s with rows := some ("ROW FORMAT SERDE '" ++ (← literalText d) ++ "'") }
    let _ ← word "DELIMITED"
    return some { s with rows := some (spaceJoin ("ROW FORMAT DELIMITED" :: (← delimiters))) }
  | some "STORED" =>
    needWord "AS"
    if ← word "INPUTFORMAT" then
      let input ← g.expr
      needWord "OUTPUTFORMAT"
      let text := "STORED AS INPUTFORMAT " ++ input.render ++ " OUTPUTFORMAT " ++ (← g.expr).render
      return some { s with formats := some text, file := none }
    return some { s with formats := none, file := some ("STORED AS " ++ (← fileFormat)) }
  | some _ => return some { s with location := some ("LOCATION '" ++ (← literalText d) ++ "'") }
  | none => return none) {}

def partitioned? : Reader (Option String) := whenWords ["PARTITIONED", "BY"] do
  return "PARTITIONED BY " ++ inParens (commaJoin (← parenthesized (list d (columnText d g))))

def onCommit : Reader String := do
  if ← word "DROP" then return "ON COMMIT DROP"
  let kept ← needOneOf ["DELETE", "PRESERVE"]
  needWord "ROWS"
  return "ON COMMIT " ++ kept ++ " ROWS"

def note : Reader String := do
  let head := if ← symbol "=" then "COMMENT = '" else "COMMENT '"
  return head ++ (← quotedText) ++ "'"

def wordText : Reader String := do
  match ← next with
  | .word n => return n.text
  | _ => refuse

def engine : Reader String := do
  needSymbol "="
  let kind ← wordText
  let parameters ← if ← isNext "(" then pure (inParens (identList (← nameList d))) else pure ""
  return "ENGINE=" ++ kind ++ parameters

def rowOrder : Reader String := do
  if !(← symbol "(") then return "ORDER BY " ++ (← g.expr).render
  let keys ← if ← isNext ")" then pure [] else exprs d g
  needSymbol ")"
  return "ORDER BY " ++ inParens (renderedList keys)

def createTable (head : String) : Reader String := do
  let guard? ← unlessExists?
  let name ← pathText d d.hyphenatedPaths
  let cluster ← cluster?
  let like? ← if (← oneOf ["LIKE", "ILIKE"]).isSome then
      pure (some ("LIKE " ++ dotted (← path d d.hyphenatedPaths)))
    else pure none
  let clone? ← whenWord "CLONE" do return "CLONE " ++ dotted (← path d d.hyphenatedPaths)
  let parts := partsText (← tableParts d g)
  let rowless ← words ["WITHOUT", "ROWID"]
  let partitioned ← partitioned? d g
  let s ← storage d g
  let settings ← settings? d g "WITH"
  let properties ← settings? d g "TBLPROPERTIES"
  let engine ← whenWord "ENGINE" (Reader.engine d)
  let counter ← whenWord "AUTO_INCREMENT" do
    let _ ← symbol "="
    return "AUTO_INCREMENT " ++ (← unsigned)
  let order ← whenWords ["ORDER", "BY"] (rowOrder d g)
  let partition ← if d.partitionedTables then
      whenWords ["PARTITION", "BY"] do return "PARTITION BY " ++ (← g.expr).render
    else pure none
  let clustered ← if d.clusteredTables then
      whenWords ["CLUSTER", "BY"] do return "CLUSTER BY " ++ identList (← list d Reader.name)
    else pure none
  let options ← if d.clusteredTables then options? d g else pure none
  let charset ← whenWords ["DEFAULT", "CHARSET"] do
    needSymbol "="
    return "DEFAULT CHARSET=" ++ (← wordText)
  let collation ← whenWord "COLLATE" do
    needSymbol "="
    return "COLLATE=" ++ (← wordText)
  let commit ← whenWords ["ON", "COMMIT"] onCommit
  let strict ← word "STRICT"
  let note ← whenWord "COMMENT" Reader.note
  let source ← whenWord "AS" do return "AS " ++ (← g.query).render
  let bare := parts.isNone && source.isNone && like?.isNone && clone?.isNone
  return spaced [some head, some "TABLE", guard?, name, cluster, if bare then some "()" else parts,
    whenTrue rowless "WITHOUT ROWID", like?, clone?, partitioned, s.rows, s.formats.or s.file,
    s.properties, s.location, properties, settings, engine, note, counter, order, partition, clustered,
    options, charset, collation, commit, whenTrue strict "STRICT", source]

def createExternal (head : String) : Reader String := do
  needWord "TABLE"
  let guard? ← unlessExists?
  let name ← pathText d false
  let parts := (partsText (← tableParts d g)).getD "()"
  let partitioned ← partitioned? d g
  let s ← storage d g
  if s.location.isNone then refuse
  return spaced [some head, some "EXTERNAL TABLE", guard?, name, some parts, partitioned, s.rows, s.formats,
    s.properties, s.file, s.location, ← settings? d g "TBLPROPERTIES"]

def tableClauseKeys : List String :=
  ["LIKE", "CLONE", "COMMENT", "CLUSTER", "COPY", "ENABLE_SCHEMA_EVOLUTION", "CHANGE_TRACKING",
   "DATA_RETENTION_TIME_IN_DAYS", "MAX_DATA_EXTENSION_TIME_IN_DAYS", "DEFAULT_DDL_COLLATION",
   "AGGREGATION", "ROW", "TAG", "ON", "AS"]

def tableClause (key : String) : Reader String := do
  match key with
  | "COPY" => needWord "GRANTS"; return "COPY GRANTS"
  | "COMMENT" => note
  | "AS" => return "AS " ++ (← g.query).render
  | "CLONE" | "LIKE" => return key ++ " " ++ dotted (← path d false)
  | "CLUSTER" => needWord "BY"; return "CLUSTER BY " ++ inParens (identList (← nameList d))
  | "ENABLE_SCHEMA_EVOLUTION" | "CHANGE_TRACKING" =>
    needSymbol "="
    return key ++ "=" ++ (← needOneOf ["TRUE", "FALSE"])
  | "DATA_RETENTION_TIME_IN_DAYS" | "MAX_DATA_EXTENSION_TIME_IN_DAYS" =>
    needSymbol "="
    return key ++ "=" ++ (← unsigned)
  | "DEFAULT_DDL_COLLATION" => needSymbol "="; return key ++ "='" ++ (← literalText d) ++ "'"
  | "AGGREGATION" => needWord "POLICY"; return "WITH AGGREGATION POLICY " ++ dotted (← path d false)
  | "ROW" =>
    needWords ["ACCESS", "POLICY"]
    let policy ← path d false
    needWord "ON"
    return "WITH ROW ACCESS POLICY " ++ dotted policy ++ " ON " ++ inParens (identList (← nameList d))
  | "TAG" => return "WITH TAG " ++ (← tagList d)
  | "ON" => needWord "COMMIT"; onCommit
  | _ => refuse

structure TableDraft where
  parts : List String × List String := ([], [])
  clauses : List (String × String) := []
  closed : Bool := false

/-- One more part of a table; a query or a table to copy is the last one. -/
def tableStep (t : TableDraft) : Reader (Option TableDraft) := do
  if t.closed then return none
  match ← peek with
  | none => if t.parts.1.isEmpty then refuse else return none
  | some (.symbol ";") => if t.parts.1.isEmpty then refuse else return none
  | some (.symbol "(") => return some { t with parts := ← tableParts d g }
  | some (.word n) =>
    skip 1
    if n.key = "WITH" then
      if (← keyAt 0) ∈ ["AGGREGATION", "TAG", "ROW"] then return some t else refuse
    let clause ← tableClause d g n.key
    return some { t with clauses := (n.key, clause) :: t.clauses, closed := n.key ∈ ["AS", "CLONE", "LIKE"] }
  | some _ => refuse

/-- A table whose clauses stand in any order; of two alike the later one counts. -/
def createWarehouseTable (head : String) : Reader String := do
  let guard? ← unlessExists?
  let name ← pathText d false
  let t ← chain (tableStep d g) {}
  let parts := if t.closed then partsText t.parts else some ((partsText t.parts).getD "()")
  return spaced ([some head, some "TABLE", guard?, name, parts]
    ++ tableClauseKeys.map fun key => t.clauses.lookup key)

def viewColumns? : Reader (Option String) := do
  if ← symbols ["(", ")"] then return none
  if !(← isNext "(") then return none
  let columns ← parenthesized (list d do
    let n ← name
    let key ← keyAt 0
    let option ← if (d = .bigquery && key = "OPTIONS") || (d = .snowflake && key = "COMMENT") then
        columnOption? d g
      else pure none
    return n.render ++ behindBlank option)
  return some (inParens (commaJoin columns))

def createView (head : String) : Reader String := do
  let guard? ← if d.guardedViews then unlessExists? else pure none
  let name ← pathText d d.hyphenatedPaths
  let columns ← viewColumns? d g
  let settings ← settings? d g "WITH"
  let clustered ← if ← word "CLUSTER" then do needWord "BY"; columns? d else pure none
  let options ← if d.clusteredTables then options? d g else pure none
  let note ← if d = .snowflake then whenWord "COMMENT" do
      needSymbol "="
      return "COMMENT = " ++ marked '\'' (← quotedText)
    else pure none
  needWord "AS"
  return spaced [some head, some "VIEW", guard?, name, columns,
    if options.isSome then none else settings, note, clustered.map ("CLUSTER BY " ++ ·), options,
    some ("AS " ++ (← g.query).render)]

def createIndex (unique : Bool) : Reader String := do
  let concurrently ← word "CONCURRENTLY"
  let guard? ← unlessExists?
  let name ← if ← given guard?.isNone (word "ON") then pure none
    else
      let name ← pathText d false
      needWord "ON"
      pure name
  let table ← path d false
  let method ← whenWord "USING" do return " USING " ++ (← Reader.name).render ++ " "
  let keys ← parenthesized (orderItems d g)
  let others ← whenWord "INCLUDE" do
    return "INCLUDE " ++ inParens (",".intercalate ((← nameList d).map (·.render)))
  let nulls ← whenWord "NULLS" do
    let distinct := negatedText (← word "NOT")
    needWord "DISTINCT"
    return "NULLS " ++ distinct ++ "DISTINCT"
  let settings ← if d = .postgres then
      whenWord "WITH" do return "WITH " ++ inParens (← parenthesized (listText d g))
    else pure none
  let condition ← whereText? g
  return spaced [some "CREATE", whenTrue unique "UNIQUE", some "INDEX",
    whenTrue concurrently "CONCURRENTLY", guard?, name, some ("ON " ++ dotted table
      ++ method.getD "" ++ inParens (",".intercalate (keys.map (·.render)))),
    others, nulls, settings, condition]

def columnChange : Reader String := do
  if ← words ["SET", "NOT", "NULL"] then return "SET NOT NULL"
  if ← words ["DROP", "NOT", "NULL"] then return "DROP NOT NULL"
  if ← words ["SET", "DEFAULT"] then return "SET DEFAULT " ++ (← g.expr).render
  if ← words ["DROP", "DEFAULT"] then return "DROP DEFAULT"
  if ← either (words ["SET", "DATA", "TYPE"]) (given (d = .postgres) (word "TYPE")) then
    let t ← type d
    let value ← if d = .postgres then whenWord "USING" do return "USING " ++ (← g.expr).render
      else pure none
    return "SET DATA TYPE " ++ t.text ++ behindBlank value
  needWords ["ADD", "GENERATED"]
  let time ← if ← word "ALWAYS" then pure " ALWAYS"
    else if ← words ["BY", "DEFAULT"] then pure " BY DEFAULT" else pure ""
  needWords ["AS", "IDENTITY"]
  let options ← if ← isNext "(" then
      pure (" (" ++ eachBehindBlank (← parenthesized sequenceOptions) ++ " )")
    else pure ""
  return "ADD GENERATED" ++ time ++ " AS IDENTITY" ++ options

def partitionText : Reader String := return "PARTITION " ++ inParens (← parenthesized (listText d g))

def tableAddition : Reader String := do
  match ← tableConstraint? d g with
  | some text => return "ADD " ++ text
  | none =>
    let guard? ← unlessExists?
    let partitions ← many (whenWord "PARTITION" (partitionText d g))
    if !partitions.isEmpty then return spaced ([some "ADD", guard?] ++ partitions.map some)
    let marked ← word "COLUMN"
    let inner? ← if d.guardedColumns then unlessExists? else pure none
    let guard? := if d.guardedColumns then inner?.or guard? else none
    return spaced [some "ADD", whenTrue marked "COLUMN", guard?, some (← columnText d g)]

def tableRenaming : Reader String := do
  let pair (kind : String) : Reader String := do
    let old ← name
    needWord "TO"
    return "RENAME " ++ kind ++ " " ++ old.render ++ " TO " ++ (← name).render
  if ← given (d = .postgres) (word "CONSTRAINT") then pair "CONSTRAINT"
  else if ← word "TO" then return "RENAME TO " ++ dotted (← path d false)
  else
    let _ ← word "COLUMN"
    pair "COLUMN"

def tableRemoval : Reader String := do
  if ← words ["IF", "EXISTS", "PARTITION"] then return "DROP IF EXISTS " ++ (← partitionText d g)
  if ← word "PARTITION" then return "DROP " ++ (← partitionText d g)
  let kind ← if ← word "CONSTRAINT" then pure "CONSTRAINT"
    else
      let _ ← words ["PRIMARY", "KEY"]
      let _ ← word "PROJECTION"
      if ← words ["CLUSTERING", "KEY"] then return "DROP CLUSTERING KEY"
      let _ ← word "COLUMN"
      pure "COLUMN"
  let guard? ← ifExists?
  let n ← name
  let cascade ← word "CASCADE"
  return spaced [some "DROP", some kind, guard?, some n.render, whenTrue cascade "CASCADE"]

def tableSwitch (key : String) : Reader String := do
  if ← words ["ROW", "LEVEL", "SECURITY"] then return key ++ " ROW LEVEL SECURITY"
  let manner ← if key = "ENABLE" then oneOf ["ALWAYS", "REPLICA"] else pure none
  let kind ← needOneOf ["RULE", "TRIGGER"]
  return spaced [some key, manner, some kind, some (← name).render]

def columnAnew : Reader String := do
  let t ← type d
  return spaced (some t.text :: (← many (columnOption? d g)).map some)

def owner : Reader String := do
  match ← oneOf ["CURRENT_USER", "CURRENT_ROLE", "SESSION_USER"] with
  | some key => return key
  | none => return (← name).render

def tableChange : Reader String := do
  if ← word "ADD" then tableAddition d g
  else if ← word "RENAME" then tableRenaming d
  else if ← word "DISABLE" then tableSwitch "DISABLE"
  else if ← word "ENABLE" then tableSwitch "ENABLE"
  else if ← word "DROP" then tableRemoval d g
  else if ← word "PARTITION" then
    let old ← partitionText d g
    needWords ["RENAME", "TO", "PARTITION"]
    return old ++ " RENAME TO " ++ (← partitionText d g)
  else if ← word "CHANGE" then
    let _ ← word "COLUMN"
    let old ← name
    let new ← name
    return spaceJoin ["CHANGE COLUMN", old.render, new.render, ← columnAnew d g]
  else if ← word "MODIFY" then
    let _ ← word "COLUMN"
    let n ← name
    return spaceJoin ["MODIFY COLUMN", n.render, ← columnAnew d g]
  else if ← word "ALTER" then
    let _ ← word "COLUMN"
    let n ← name
    return "ALTER COLUMN " ++ n.render ++ " " ++ (← columnChange d g)
  else if ← word "SWAP" then
    needWord "WITH"
    return "SWAP WITH " ++ dotted (← path d false)
  else if ← given (d = .postgres) (words ["OWNER", "TO"]) then return "OWNER TO " ++ (← owner)
  else if ← words ["CLUSTER", "BY"] then
    return "CLUSTER BY " ++ inParens (← parenthesized (listText d g))
  else if ← words ["SUSPEND", "RECLUSTER"] then return "SUSPEND RECLUSTER"
  else if ← words ["RESUME", "RECLUSTER"] then return "RESUME RECLUSTER"
  else
    needWords ["SET", "TBLPROPERTIES"]
    return "SET TBLPROPERTIES" ++ (← settingList d g)

def alterTable : Reader String := do
  let guard? ← ifExists?
  let only ← word "ONLY"
  let table ← pathText d false
  let cluster ← cluster?
  let changes ← list d (tableChange d g)
  let place ← if ← word "LOCATION" then pure (some ("LOCATION " ++ (← name).render))
    else whenWords ["SET", "LOCATION"] do return "SET LOCATION " ++ (← name).render
  return spaced [some "ALTER TABLE", guard?, whenTrue only "ONLY", table, cluster,
    some (commaJoin changes), place]

def alterIndex : Reader String := do
  let index ← path d false
  needWords ["RENAME", "TO"]
  return "ALTER INDEX " ++ dotted index ++ " RENAME TO " ++ dotted (← path d false)

def alterView : Reader String := do
  let view ← pathText d false
  let columns ← columns? d
  let settings ← settings? d g "WITH"
  needWord "AS"
  return spaced [some "ALTER VIEW", view, columns, settings, some ("AS " ++ (← g.query).render)]

end QueryBridge.Source.Reader
