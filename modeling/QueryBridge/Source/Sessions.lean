import QueryBridge.Source.Definitions

set_option autoImplicit false

namespace QueryBridge.Source.Reader

variable (d : Dialect) (g : Deeper)

def isolationLevel : Reader String := do
  if ← words ["READ", "UNCOMMITTED"] then return "READ UNCOMMITTED"
  if ← words ["READ", "COMMITTED"] then return "READ COMMITTED"
  if ← words ["REPEATABLE", "READ"] then return "REPEATABLE READ"
  needOneOf ["SERIALIZABLE", "SNAPSHOT"]

def transactionMode? : Reader (Option String) := do
  if ← words ["ISOLATION", "LEVEL"] then return some ("ISOLATION LEVEL " ++ (← isolationLevel))
  if ← words ["READ", "ONLY"] then return some "READ ONLY"
  if ← words ["READ", "WRITE"] then return some "READ WRITE"
  return none

/-- Modes with or without commas between; behind a comma there is one more. -/
def transactionModes : Reader (Option String) := do
  let (modes, _) ← chain (fun (found : List String × Bool) => do
    match ← transactionMode? with
    | some mode => return some (mode :: found.1, ← symbol ",")
    | none => if found.2 then refuse else return none) ([], false)
  return if modes.isEmpty then none else some (commaJoin modes.reverse)

def beginning : Reader String := do
  let kind ← if d = .sqlite then oneOf ["DEFERRED", "IMMEDIATE", "EXCLUSIVE"] else pure none
  let word? ← oneOf ["TRANSACTION", "WORK"]
  return spaced [some "BEGIN", kind, word?, ← transactionModes]

def chained? : Reader (Option String) := do
  let _ ← oneOf ["TRANSACTION", "WORK"]
  if !(← word "AND") then return none
  let again := !(← word "NO")
  needWord "CHAIN"
  return whenTrue again "AND CHAIN"

def rollback : Reader String := do
  let chained ← chained?
  let point ← whenWord "TO" do
    let _ ← word "SAVEPOINT"
    return "TO SAVEPOINT " ++ (← name).render
  return spaced [some "ROLLBACK", chained, point]

def role? (scope : Option String) : Reader (Option String) := attempt do
  needWord "ROLE"
  let role ← if ← word "NONE" then pure "NONE" else pure (← name).render
  return spaced [some "SET", scope, some "ROLE", some role]

def settingValues : Reader String := return renderedList (← listOf (fun _ => false) g.expr)

def setting (scope? : Option String) (target : String) : Reader String := do
  let marked := if scope? = some "LOCAL" then "SET LOCAL " else "SET "
  if ← either (symbol "=") (word "TO") then return marked ++ target ++ " = " ++ (← settingValues g)
  if Text.upper target = "TIMEZONE" then return marked ++ "TIME ZONE " ++ (← g.expr).render
  if target = "CHARACTERISTICS" then
    needWords ["AS", "TRANSACTION"]
    return spaced [some "SET SESSION CHARACTERISTICS AS TRANSACTION", ← transactionModes]
  if target = "TRANSACTION" && scope?.isNone then
    if ← word "SNAPSHOT" then return "SET TRANSACTION SNAPSHOT " ++ (← value).render
    return spaced [some "SET TRANSACTION", ← transactionModes]
  refuse

def settings : Reader String := do
  let scope? ← oneOf ["SESSION", "LOCAL"]
  match ← role? scope? with
  | some text => return text
  | none =>
    if ← words ["TIME", "ZONE"] then return ← setting g scope? "TIMEZONE"
    if !(d.settingTuples && (← isNext "(")) then
      return ← setting g scope? (dotted (← path d false))
    let targets ← nameList d
    if !(← either (symbol "=") (word "TO")) then refuse
    let values ← parenthesized (settingValues g)
    return spaced [some "SET", whenTrue (scope? = some "LOCAL") "LOCAL",
      some (inParens (identList targets)), some "=", some (inParens values)]

def pragma : Reader String := do
  let target := dotted (← path d false)
  let setTo : Reader String := do
    match ← value with
    | .string (.plain mark) text => return (Value.string (.plain mark) text).render
    | .number text long => return (Value.number text long).render
    | .placeholder text => return text
    | _ => refuse
  if ← symbol "(" then
    let text ← setTo
    needSymbol ")"
    return "PRAGMA " ++ target ++ inParens text
  if ← symbol "=" then return "PRAGMA " ++ target ++ " = " ++ (← setTo)
  return "PRAGMA " ++ target

def use : Reader String := do
  let kind ← if d = .snowflake then oneOf ["DATABASE", "SCHEMA", "WAREHOUSE", "ROLE", "SECONDARY"]
    else pure none
  if kind ≠ some "SECONDARY" then return spaced [some "USE", kind, ← pathText d false]
  needWord "ROLES"
  match ← oneOf ["ALL", "NONE"] with
  | some key => return "USE SECONDARY ROLES " ++ key
  | none => return "USE SECONDARY ROLES " ++ identList (← list d name)

def listingPlace? : Reader (Option String) := do
  match ← oneOf ["FROM", "IN"] with
  | none => return none
  | some key =>
    let kind ← oneOf ["ACCOUNT", "DATABASE", "SCHEMA", "TABLE", "VIEW"]
    let followed := startsWithWords ["STARTS", "WITH"] (← get) || (← keyAt 0) = "LIMIT"
    let place ← match kind with
      | none =>
        let place ← path d false
        let outer ← if (← oneOf ["FROM", "IN"]).isSome then pure [← name] else pure []
        pure (some (outer ++ place))
      | some kind =>
        if followed && kind ∈ ["DATABASE", "SCHEMA"] then pure none else attempt (path d false)
    return some (spaced [some key, kind, place.map dotted])

def listingFilter? : Reader (Option String) := do
  match ← oneOf ["LIKE", "ILIKE", "WHERE"] with
  | some "WHERE" => return some ("WHERE " ++ (← g.expr).render)
  | some key => return some (key ++ " " ++ marked '\'' (← literalText d))
  | none => return (← attempt (literalText d)).map fun text => "'" ++ text ++ "'"

def listing (head : String) : Reader String := do
  let before ← if d.filterBeforePlace then listingFilter? d g else pure none
  let place ← listingPlace? d
  let after ← if d.filterBeforePlace then pure none else listingFilter? d g
  let start ← whenWords ["STARTS", "WITH"] do return "STARTS WITH " ++ (← value).render
  let limit ← whenWord "LIMIT" do return "LIMIT " ++ (← g.expr).render
  let first ← whenWord "FROM" do return "FROM " ++ (← value).render
  return spaced [some head, before, place, start, limit, first, after]

/-- The words up to the end or an equals sign; what stands between them counts for nothing. -/
def restOfWords : Reader (List String) := do
  let (found, rest) := (← get).span (·.lexeme ≠ .symbol "=")
  set rest
  return found.filterMap fun p => match p.lexeme with
    | .word n => some n.render
    | _ => none

def showing : Reader String := do
  let terse := whenTrue (← word "TERSE") "TERSE"
  let extended := whenTrue (← word "EXTENDED") "EXTENDED"
  let full := whenTrue (← word "FULL") "FULL"
  let _ ← word "SESSION"
  let _ ← word "GLOBAL"
  let external := whenTrue (← word "EXTERNAL") "EXTERNAL"
  let head (parts : List (Option String)) := spaced (some "SHOW" :: parts)
  let past : Reader (Option String) := return whenTrue (← word "HISTORY") "HISTORY"
  if (← oneOf ["COLUMNS", "FIELDS"]).isSome then
    listing d g (head [extended, full, some "COLUMNS"])
  else if ← word "TABLES" then
    listing d g (head [terse, extended, full, external, some "TABLES", ← past])
  else if ← words ["MATERIALIZED", "VIEWS"] then
    listing d g (head [terse, some "MATERIALIZED", some "VIEWS"])
  else if ← word "VIEWS" then listing d g (head [terse, some "VIEWS"])
  else if ← word "FUNCTIONS" then return spaced [some "SHOW FUNCTIONS", ← listingFilter? d g]
  else if extended.isSome || full.isSome then refuse
  else if ← word "CREATE" then
    let kind ← needOneOf ["TABLE", "TRIGGER", "FUNCTION", "PROCEDURE", "EVENT", "VIEW"]
    return "SHOW CREATE " ++ kind ++ " " ++ dotted (← path d false)
  else if ← word "COLLATION" then return spaced [some "SHOW COLLATION", ← listingFilter? d g]
  else if ← word "DATABASES" then listing d g (head [terse, some "DATABASES", ← past])
  else if ← word "SCHEMAS" then listing d g (head [terse, some "SCHEMAS", ← past])
  else return spaceJoin ("SHOW" :: (← restOfWords))

def calling : Reader String := do
  let target ← path d false
  if ← isNext "(" then return "CALL " ++ (← call d g (interval d g) target).render
  else return "CALL " ++ dotted target

def execute : Reader String := do
  let target ← path d false
  let parameters ← if ← isNext "(" then
      needSymbol "("
      let es ← listBefore d ")" g.expr
      needSymbol ")"
      pure (inParens (renderedList es))
    else if (← peek).isNone || (← isNext ";") || (← keyAt 0) = "USING" then pure ""
    else pure (" " ++ renderedList (← exprs d g))
  let using? ← whenWord "USING" do return "USING " ++ (← settingValues g)
  return "EXECUTE " ++ dotted target ++ parameters ++ behindBlank using?

def attach : Reader String := do
  let database := whenTrue (← word "DATABASE") "DATABASE"
  if d ≠ .duckdb then
    let file ← g.expr
    needWord "AS"
    return spaced [some "ATTACH", database, some file.render, some ("AS " ++ (← name).render)]
  let guard? ← unlessExists?
  let file ← name
  let label ← whenWord "AS" do return "AS " ++ (← name).render
  let option : Reader String := do
    if ← word "READ_ONLY" then
      match ← oneOf ["TRUE", "FALSE"] with
      | some "TRUE" => return "READ_ONLY true"
      | some _ => return "READ_ONLY false"
      | none => return "READ_ONLY"
    needWord "TYPE"
    return "TYPE " ++ (← name).render
  let options ← if ← isNext "(" then
      pure (some (inParens (commaJoin (← parenthesized (listOf (fun _ => false) option)))))
    else pure none
  return spaced [some "ATTACH", database, guard?, some file.render, label, options]

def detach : Reader String := do
  let database := whenTrue (← word "DATABASE") "DATABASE"
  let guard? ← ifExists?
  return spaced [some "DETACH", database, guard?, some (← name).render]

def kill : Reader String := do
  let kind ← oneOf ["CONNECTION", "QUERY"]
  return spaced [some "KILL", kind, some (← unsigned)]

def analyze : Reader String := do
  needWord "TABLE"
  let table ← pathText d false
  let found ← chain (fun (found : List (String × String)) => do
    match ← oneOf ["PARTITION", "COMPUTE", "NOSCAN", "CACHE", "FOR"] with
    | none => return none
    | some "PARTITION" =>
      return some (("PARTITION", "PARTITION " ++ inParens (← parenthesized (listText d g))) :: found)
    | some "COMPUTE" => needWord "STATISTICS"; return some (("COMPUTE", "COMPUTE STATISTICS") :: found)
    | some "CACHE" => needWord "METADATA"; return some (("CACHE", "CACHE METADATA") :: found)
    | some "FOR" =>
      needWord "COLUMNS"
      let columns ← attempt (list d name)
      return some (("FOR", "FOR COLUMNS" ++ behindBlank (columns.map identList)) :: found)
    | some key => return some ((key, key) :: found)) []
  let order := ["PARTITION", "COMPUTE", "NOSCAN", "CACHE", "FOR"]
  return spaced ([some "ANALYZE TABLE", table] ++ order.map fun key => found.lookup key)

def firstValue? : Reader (Option String) := do
  if ← word "DEFAULT" then return some ("DEFAULT " ++ (← g.expr).render)
  if ← symbol ":=" then return some (":= " ++ (← g.expr).render)
  return none

def declareVariables : Reader String := do
  let names ← list d name
  let kind ← if (← keyAt 0) = "DEFAULT" then pure none else some <$> (return (← type d).text)
  let value ← whenWord "DEFAULT" do return "DEFAULT " ++ (← g.expr).render
  if kind.isNone && value.isNone then refuse
  return spaced [some ("DECLARE " ++ identList names), kind, value]

def declaration : Reader String := do
  let n ← name
  if ← word "CURSOR" then
    needWord "FOR"
    let source ← if (← keyAt 0) = "SELECT" then pure (← g.query).render else pure (← g.expr).render
    return n.render ++ " CURSOR FOR " ++ source
  if ← word "RESULTSET" then return spaced [some n.render, some "RESULTSET", ← firstValue? g]
  if ← word "EXCEPTION" then
    let value ← if ← isNext "(" then pure (some (← g.expr).render) else pure none
    return spaced [some n.render, some "EXCEPTION", value]
  match ← firstValue? g with
  | some text => return n.render ++ " " ++ text
  | none =>
    if !(← peek).any (·.isWord) then return n.render
    let t ← type d
    return spaced [some n.render, some t.text, ← firstValue? g]

/-- Names of a block; behind a semicolon there is one more unless a keyword stands there. -/
def declareBlock : Reader String := do
  let first ← declaration d g
  let more ← many do
    if !(← isNext ";") then return none
    match ← peekAt 1 with
    | some (.word n) =>
      if isKeyword (Text.upper n.text) then return none
      skip 1
      some <$> declaration d g
    | _ => return none
  return "DECLARE " ++ "; ".intercalate (first :: more)

def declareCursor : Reader String := do
  let n ← name
  let binary ← word "BINARY"
  let sensitive ← oneOf ["INSENSITIVE", "ASENSITIVE"]
  let scroll ← if ← word "SCROLL" then pure (some "SCROLL")
    else pure (whenTrue (← words ["NO", "SCROLL"]) "NO SCROLL")
  needWord "CURSOR"
  let held ← oneOf ["WITH", "WITHOUT"]
  if held.isSome then needWord "HOLD"
  needWord "FOR"
  return spaced [some "DECLARE", some n.render, whenTrue binary "BINARY", sensitive, scroll, some "CURSOR",
    held.map (· ++ " HOLD"), some ("FOR " ++ (← g.query).render)]

def declare : Reader String :=
  match d with
  | .bigquery => declareVariables d g
  | .snowflake => declareBlock d g
  | _ => declareCursor g

def fetchRows : Reader String := do
  let count : Reader String := return (← numberValue).render
  let way ← match ← oneOf ["NEXT", "PRIOR", "FIRST", "LAST", "ABSOLUTE", "RELATIVE", "FORWARD", "BACKWARD",
      "ALL"] with
    | none => count
    | some key =>
      if key ∈ ["NEXT", "PRIOR", "FIRST", "LAST", "ALL"] then pure key
      else if ← given (key ∈ ["FORWARD", "BACKWARD"]) (word "ALL") then pure (key ++ " ALL")
      else pure (key ++ " " ++ (← count))
  let _ ← needOneOf ["FROM", "IN"]
  let n ← name
  let target ← whenWord "INTO" do return "INTO " ++ dotted (← path d false)
  return spaced [some "FETCH", some way, some ("IN " ++ n.render), target]

def cacheTable : Reader String := do
  let flag ← if (← keyAt 0) = "TABLE" then pure none else pathText d false
  needWord "TABLE"
  let table ← pathText d false
  let options ← options? d g
  let filled := (← peek).isSome
  if filled && !((← peek).any (·.isWord)) then refuse
  let marked ← given filled (word "AS")
  let source ← if filled then pure (some (← g.query).render) else pure none
  return spaced [some "CACHE", flag, some "TABLE", table, options, whenTrue marked "AS", source]

def uncacheTable : Reader String := do
  needWord "TABLE"
  let guard? ← ifExists?
  return spaced [some "UNCACHE TABLE", guard?, ← pathText d false]

def checkTable : Reader String := do
  let repair ← word "REPAIR"
  needWord "TABLE"
  let table ← pathText d false
  let way ← attempt do
    let key ← oneOf ["ADD", "DROP", "SYNC"]
    needWord "PARTITIONS"
    return key.map (· ++ " PARTITIONS")
  return spaced [some "MSCK", whenTrue repair "REPAIR", some "TABLE", table, way.join]

def notify : Reader String := do
  let channel ← name
  let payload ← if ← symbol "," then pure (", '" ++ (← literalText d) ++ "'") else pure ""
  return "NOTIFY " ++ channel.render ++ payload

def sessionCommand? (key : String) : Option (Reader String) :=
  let named (text : String) : Option (Reader String) := some (return text ++ " " ++ (← name).render)
  match key with
  | "BEGIN" => some (beginning d)
  | "START" => some do
    needWord "TRANSACTION"
    return spaced [some "START TRANSACTION", ← transactionModes]
  | "COMMIT" | "END" => some (return spaced [some "COMMIT", ← chained?])
  | "ROLLBACK" => some rollback
  | "SAVEPOINT" => named "SAVEPOINT"
  | "RELEASE" => some do
    let _ ← word "SAVEPOINT"
    return "RELEASE SAVEPOINT " ++ (← name).render
  | "SET" => some (settings d g)
  | "PRAGMA" => some (pragma d)
  | "USE" => some (use d)
  | "SHOW" => some (showing d g)
  | "CALL" => some (calling d g)
  | "EXECUTE" | "EXEC" => some (execute d g)
  | "DEALLOCATE" => some do
    let prepared := whenTrue (← word "PREPARE") "PREPARE"
    return spaced [some "DEALLOCATE", prepared, some (← name).render]
  | "ATTACH" => some (attach d g)
  | "DETACH" => if d = .duckdb then some detach else none
  | "KILL" => some kill
  | "ANALYZE" => some (analyze d g)
  | "DECLARE" => some (declare d g)
  | "FETCH" => some (fetchRows d)
  | "CACHE" => some (cacheTable d g)
  | "UNCACHE" => some (uncacheTable d)
  | "MSCK" => some (checkTable d)
  | "ASSERT" => some do
    let condition ← g.expr
    let message ← whenWord "AS" do return "AS " ++ (← g.expr).render
    return spaced [some "ASSERT", some condition.render, message]
  | "DISCARD" => some do
    let kind ← needOneOf ["ALL", "PLANS", "SEQUENCES", "TEMP", "TEMPORARY"]
    return "DISCARD " ++ if kind = "TEMPORARY" then "TEMP" else kind
  | "CLOSE" => some do
    if ← word "ALL" then return "CLOSE ALL" else return "CLOSE " ++ (← name).render
  | "INSTALL" => if d = .duckdb then named "INSTALL" else none
  | "LOAD" => if d = .duckdb then named "LOAD" else none
  | "LISTEN" => if d.notifications then named "LISTEN" else none
  | "UNLISTEN" => if d.notifications then some do
      if ← symbol "*" then return "UNLISTEN *" else return "UNLISTEN " ++ (← name).render
    else none
  | "NOTIFY" => if d.notifications then some (notify d) else none
  | _ => none

end QueryBridge.Source.Reader
