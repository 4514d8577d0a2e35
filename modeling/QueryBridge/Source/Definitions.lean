import QueryBridge.Source.Roles
import QueryBridge.Source.Routines
import QueryBridge.Source.Transfers

set_option autoImplicit false

namespace QueryBridge.Source.Reader

variable (d : Dialect) (g : Deeper)

def createSchema : Reader String := do
  let guard? ← unlessExists?
  let name ← if (← keyAt 0) = "AUTHORIZATION" then pure none else pathText d false
  let owner ← whenWord "AUTHORIZATION" do return "AUTHORIZATION " ++ (← Reader.name).render
  return spaced [some "CREATE SCHEMA", guard?, name, owner]

def createDatabase : Reader String := do
  let guard? ← unlessExists?
  let name ← pathText d false
  let (place, managed) ← chain (fun (found : Option String × Option String) => do
    if ← word "LOCATION" then
      return some (some ("LOCATION '" ++ (← literalText d) ++ "'"), found.2)
    if ← word "MANAGEDLOCATION" then
      return some (found.1, some ("MANAGEDLOCATION '" ++ (← literalText d) ++ "'"))
    return none) (none, none)
  return spaced [some "CREATE DATABASE", guard?, name, place, managed]

def createExtension : Reader String := do
  let guard? ← unlessExists?
  let n ← name
  if !(← word "WITH") then return spaced [some "CREATE EXTENSION", guard?, some n.render]
  let schema ← whenWord "SCHEMA" do return "SCHEMA " ++ (← name).render
  let version ← whenWord "VERSION" do return "VERSION " ++ (← name).render
  let cascade ← word "CASCADE"
  return spaced [some "CREATE EXTENSION", guard?, some n.render,
    whenTrue (cascade || schema.isSome || version.isSome) "WITH", schema, version,
    whenTrue cascade "CASCADE"]

def createVirtual : Reader String := do
  needWord "TABLE"
  let guard? ← unlessExists?
  let table ← pathText d false
  needWord "USING"
  let module ← name
  return spaced [some "CREATE VIRTUAL TABLE", guard?, table, some "USING", some module.render,
    ← columns? d]

def createSequence (head : String) : Reader String := do
  let guard? ← unlessExists?
  let name ← pathText d false
  let kind ← whenWord "AS" do return "AS " ++ (← type d).text
  let options ← sequenceOptions
  let owner ← whenWords ["OWNED", "BY"] do
    if ← word "NONE" then return "OWNED BY NONE" else return "OWNED BY " ++ dotted (← path d false)
  return spaced ([some head, some "SEQUENCE", guard?, name, kind] ++ options.map some ++ [owner])

def attributes : Reader (List String) := do
  let found ← listOf (· = some (.symbol ")")) do
    let n ← name
    let t ← type d
    let collation ← whenWord "COLLATE" do return "COLLATE " ++ dotted (← path d false)
    return spaced [some n.render, some t.text, collation]
  needSymbol ")"
  return found

def createType : Reader String := do
  let head := "CREATE TYPE " ++ dotted (← path d false) ++ " AS "
  needWord "AS"
  if ← word "ENUM" then
    needSymbol "("
    let labels ← listBefore d ")" name
    needSymbol ")"
    return head ++ "ENUM " ++ inParens (identList labels)
  if ← symbols ["(", ")"] then return head ++ "()"
  if ← symbol "(" then return head ++ inParens (commaJoin (← attributes d)) else return head ++ "()"

/-- Whether something lasts as long as a session or longer; it cannot be both. -/
def lifetime (temporary persistent : Bool) : Reader (Option String) := do
  if temporary && persistent then refuse
  return if temporary then some "TEMPORARY" else whenTrue persistent "PERSISTENT"

def createSecret (head : String) (temporary persistent : Bool) : Reader String := do
  let guard? ← unlessExists?
  let inside : Reader (Option Ident) := do
    if ← word "IN" then attempt name else return none
  let first ← inside
  let label ← if first.isSome || (← isNext "(") then pure none else attempt name
  let place ← if first.isSome then pure first else inside
  let (kind, options) ← parenthesized do
    needWord "TYPE"
    let kind ← name
    let options ← if ← symbol "," then list d do
        let key ← name
        return ", " ++ key.render ++ " " ++ (← name).render
      else pure []
    return (kind, options)
  let lasting ← lifetime temporary persistent
  return spaced [some head, lasting, some "SECRET", guard?, label.map (·.render),
    place.map fun n => "IN " ++ n.render, some ("( TYPE " ++ kind.render ++ String.join options ++ " )")]

def createObject (replaces altered : Bool) (scope : Option String) (transient temporary persistent : Bool) :
    Reader String := do
  let head := spaced [some "CREATE", whenTrue replaces "OR REPLACE"]
  let brief := whenTrue temporary "TEMPORARY"
  let briefHead := spaced [some head, brief]
  let key ← keyAt 0
  skip 1
  match key with
  | "TABLE" => createTable d g (spaced [some head, scope, brief, whenTrue transient "TRANSIENT"])
  | "MATERIALIZED" => needWord "VIEW"; createView d g (spaced [some head, some "MATERIALIZED", brief])
  | "VIEW" => createView d g briefHead
  | "POLICY" => createPolicy d g
  | "EXTERNAL" => createExternal d g head
  | "FUNCTION" => match d with
    | .postgres => createFunction d g briefHead
    | .duckdb => createMacro d g briefHead
    | .bigquery => createExpressionFunction d g briefHead
    | _ => refuse
  | "MACRO" => if d = .duckdb then createMacro d g briefHead else refuse
  | "TRIGGER" => if d = .postgres then createTrigger d g head else refuse
  | "CONSTRAINT" =>
    needWord "TRIGGER"
    if d = .postgres then createTrigger d g (head ++ " CONSTRAINT") else refuse
  | "SECRET" => createSecret d head temporary persistent
  | _ =>
    if replaces then refuse
    match key with
    | "EXTENSION" => createExtension
    | "INDEX" => createIndex d g false
    | "UNIQUE" => needWord "INDEX"; createIndex d g true
    | "VIRTUAL" => createVirtual d
    | "SCHEMA" => createSchema d
    | "DATABASE" => createDatabase d
    | "ROLE" => createRole d
    | "SEQUENCE" => createSequence d briefHead
    | "TYPE" => createType d
    | "PROCEDURE" => createProcedure d g altered
    | _ => refuse

def createInWarehouse? : Reader (Option String) := do
  let start ← get
  let replaces ← words ["OR", "REPLACE"]
  let scope ← oneOf ["GLOBAL", "LOCAL"]
  let lasting ← oneOf ["TEMP", "TEMPORARY", "VOLATILE", "TRANSIENT"]
  let lasting := if lasting = some "TEMP" then some "TEMPORARY" else lasting
  let head := spaced [some "CREATE", whenTrue replaces "OR REPLACE"]
  let brief := lasting.filter (· = "TEMPORARY")
  if ← word "STAGE" then return some (← createStage d (spaced [some head, brief]))
  if ← word "TABLE" then return some (← createWarehouseTable d g (spaced [some head, scope, lasting]))
  if scope.isSome || (lasting.isSome && brief.isNone) then refuse
  set start
  return none

def create : Reader String := do
  match ← if d = .snowflake then createInWarehouse? d g else pure none with
  | some text => return text
  | none =>
    let replaces ← words ["OR", "REPLACE"]
    let altered ← words ["OR", "ALTER"]
    let inside ← word "LOCAL"
    let scope := if ← word "GLOBAL" then some "GLOBAL" else whenTrue inside "LOCAL"
    let transient ← word "TRANSIENT"
    let temporary := (← oneOf ["TEMP", "TEMPORARY"]).isSome
    let persistent ← given (d = .duckdb) (word "PERSISTENT")
    createObject d g replaces altered scope transient temporary persistent

def alter : Reader String := do
  match ← needOneOf ["TABLE", "INDEX", "VIEW", "ROLE", "POLICY"] with
  | "TABLE" => alterTable d g
  | "INDEX" => alterIndex d
  | "VIEW" => alterView d g
  | "ROLE" => alterRole d g
  | _ => alterPolicy d g

def dropSecret (temporary persistent : Bool) : Reader String := do
  let guard? ← ifExists?
  let n ← name
  let place ← if ← word "FROM" then attempt name else pure none
  return spaced [some "DROP", ← lifetime temporary persistent, some "SECRET", guard?, some n.render,
    place.map fun n => "FROM " ++ n.render]

def drop : Reader String := do
  let temporary ← given (d = .duckdb) (word "TEMPORARY")
  let persistent ← given (d = .duckdb) (word "PERSISTENT")
  match ← needOneOf ["TABLE", "VIEW", "INDEX", "ROLE", "SCHEMA", "DATABASE", "SEQUENCE", "STAGE", "TYPE",
    "FUNCTION", "POLICY", "PROCEDURE", "SECRET", "TRIGGER"] with
  | "FUNCTION" => dropRoutine d g "FUNCTION"
  | "PROCEDURE" => dropRoutine d g "PROCEDURE"
  | "POLICY" => dropPolicy d
  | "SECRET" => dropSecret temporary persistent
  | "TRIGGER" => if d = .postgres then dropTrigger d else refuse
  | kind =>
    let guard? ← ifExists?
    let names ← list d (path d false)
    let cascade ← word "CASCADE"
    let restrict ← word "RESTRICT"
    let purge ← word "PURGE"
    if cascade && restrict then refuse
    if kind = "ROLE" && (cascade || restrict || purge) then refuse
    return spaced [some "DROP", whenTrue temporary "TEMPORARY", some kind, guard?,
      some (commaJoin (names.map dotted)), whenTrue cascade "CASCADE", whenTrue restrict "RESTRICT",
      whenTrue purge "PURGE"]

def truncate : Reader String := do
  let table ← word "TABLE"
  let only ← word "ONLY"
  let names ← list d (path d false)
  let partition ← whenWord "PARTITION" do
    return "PARTITION " ++ inParens (← parenthesized (listText d g))
  let identity ← if ← given (d = .postgres) (words ["RESTART", "IDENTITY"]) then
      pure (some "RESTART IDENTITY")
    else if ← given (d = .postgres) (words ["CONTINUE", "IDENTITY"]) then
      pure (some "CONTINUE IDENTITY")
    else pure none
  let cascade ← if d = .postgres then dropMode? else pure none
  return spaced [some "TRUNCATE", whenTrue table "TABLE", whenTrue only "ONLY",
    some (commaJoin (names.map dotted)), identity, cascade, partition, ← cluster?]

def comment : Reader String := do
  let guard? ← ifExists?
  needWord "ON"
  let kind ← needOneOf ["COLUMN", "TABLE", "EXTENSION", "SCHEMA", "DATABASE", "USER", "ROLE"]
  let target ← pathText d false
  needWord "IS"
  let text ← if ← word "NULL" then pure "NULL" else pure ("'" ++ (← literalText d) ++ "'")
  return spaced [some "COMMENT", guard?, some ("ON " ++ kind), target, some ("IS " ++ text)]

end QueryBridge.Source.Reader
