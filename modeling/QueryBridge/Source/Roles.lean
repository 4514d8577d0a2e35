import QueryBridge.Source.Tables

set_option autoImplicit false

namespace QueryBridge.Source.Reader

variable (d : Dialect) (g : Deeper)

def privilege : Reader String := do
  let key ← needOneOf ["CONNECT", "CREATE", "DELETE", "EXECUTE", "INSERT", "REFERENCES", "SELECT", "TEMPORARY",
    "TRIGGER", "TRUNCATE", "UPDATE", "USAGE"]
  if key ∈ ["INSERT", "REFERENCES", "SELECT", "UPDATE"] then return spaced [some key, ← columns? d]
  return key

def privileges : Reader String := do
  if ← word "ALL" then return if ← word "PRIVILEGES" then "ALL PRIVILEGES" else "ALL"
  let ends (following : Option Lexeme) := d.trailingCommas && match following with
    | none => true
    | some (.word n) => n.key = "ON"
    | some (.symbol text) => text ∈ [")", ";", "]", "\x7d"]
    | some _ => false
  return commaJoin (← listOf ends (privilege d))

/-- What privileges are about; a table is not called one. -/
def privilegeTarget : Reader String := do
  let head ← if ← words ["ALL", "TABLES", "IN", "SCHEMA"] then pure (some "ALL TABLES IN SCHEMA")
    else if ← words ["ALL", "SEQUENCES", "IN", "SCHEMA"] then pure (some "ALL SEQUENCES IN SCHEMA")
    else match ← oneOf ["SEQUENCE", "SCHEMA", "TABLE"] with
      | some "TABLE" => pure none
      | found => pure found
  let names ← list d (path d false)
  return spaced [head, some (commaJoin (names.map dotted))]

def grantor? : Reader (Option String) := whenWords ["GRANTED", "BY"] do
  return "GRANTED BY " ++ (← name).render

def grant : Reader String := do
  let granted ← privileges d
  needWord "ON"
  let target ← privilegeTarget d
  needWord "TO"
  let roles ← list d name
  let further ← words ["WITH", "GRANT", "OPTION"]
  return spaced [some "GRANT", some granted, some "ON", some target, some "TO", some (identList roles),
    whenTrue further "WITH GRANT OPTION", ← grantor?]

def revoke : Reader String := do
  let revoked ← privileges d
  needWord "ON"
  let target ← privilegeTarget d
  needWord "FROM"
  let roles ← list d name
  let grantor ← grantor?
  let cascade ← word "CASCADE"
  if ← word "RESTRICT" then if cascade then refuse
  return spaced [some "REVOKE", some revoked, some "ON", some target, some "FROM", some (identList roles),
    grantor, some (if cascade then "CASCADE" else "RESTRICT")]

def roleRights : List String :=
  ["SUPERUSER", "CREATEDB", "CREATEROLE", "INHERIT", "LOGIN", "REPLICATION", "BYPASSRLS"]

def roleOption? : Reader (Option (String × String)) := do
  let key ← keyAt 0
  match roleRights.find? fun right => key = right || key = "NO" ++ right with
  | some right => skip 1; return some (right, key)
  | none =>
    if ← word "PASSWORD" then
      let text ← if ← word "NULL" then pure "NULL" else pure (← value).render
      return some ("PASSWORD", "PASSWORD " ++ text)
    if ← word "CONNECTION" then
      needWord "LIMIT"
      return some ("CONNECTION", "CONNECTION LIMIT " ++ (← numberValue).render)
    if ← word "VALID" then
      needWord "UNTIL"
      return some ("VALID", "VALID UNTIL " ++ (← value).render)
    return none

def roleRelation? : Reader (Option (String × String)) := do
  match ← oneOf ["IN", "ROLE", "USER", "ADMIN"] with
  | none => return none
  | some "IN" =>
    let key := "IN " ++ (← needOneOf ["ROLE", "GROUP"])
    return some (key, key ++ " " ++ identList (← list d name))
  | some key => return some (key, key ++ " " ++ identList (← list d name))

def roleOptions : Reader (List (String × String)) := chain (fun (found : List (String × String)) => do
  let option? ← match ← roleOption? with
    | some option => pure (some option)
    | none => roleRelation? d
  match option? with
  | none => return none
  | some (about, text) => if (found.lookup about).isSome then refuse else return some ((about, text) :: found)) []

def createRole : Reader String := do
  let guard? ← unlessExists?
  let names ← list d (path d false)
  let _ ← word "WITH"
  let options ← if d = .postgres then roleOptions d else pure []
  let order := roleRights ++ ["CONNECTION", "PASSWORD", "VALID", "IN ROLE", "IN GROUP", "ROLE", "USER", "ADMIN"]
  return spaced ([some "CREATE ROLE", guard?, some (commaJoin (names.map dotted))]
    ++ order.map fun about => options.lookup about)

def roleSetting : Reader String := do
  let target := dotted (← path d false)
  if ← words ["FROM", "CURRENT"] then return "SET " ++ target ++ " FROM CURRENT"
  if !(← either (symbol "=") (word "TO")) then refuse
  if ← word "DEFAULT" then return "SET " ++ target ++ " TO DEFAULT"
  return "SET " ++ target ++ " TO " ++ (← g.expr).render

def alterRole : Reader String := do
  if d ≠ .postgres then refuse
  let n ← name
  let place ← whenWords ["IN", "DATABASE"] do return "IN DATABASE " ++ dotted (← path d false)
  let head := "ALTER ROLE " ++ n.render ++ " "
  if ← word "RENAME" then
    needWord "TO"
    return head ++ "RENAME TO " ++ (← name).render
  if ← word "SET" then return head ++ spaced [place, some (← roleSetting d g)]
  if ← word "RESET" then
    if ← word "ALL" then return head ++ spaced [place, some "RESET ALL"]
    return head ++ spaced [place, some ("RESET " ++ dotted (← path d false))]
  let _ ← word "WITH"
  let options ← many do
    match ← attempt roleOption? with
    | some found => return found.map (·.2)
    | none => return none
  if options.isEmpty then refuse
  return head ++ "WITH " ++ spaceJoin options

def policyTail : Reader (List (Option String)) := do
  let roles ← whenWord "TO" do return "TO " ++ commaJoin (← list d owner)
  let seen ← whenWord "USING" do return "USING " ++ inParens (← parenthesized g.expr).render
  let written ← whenWords ["WITH", "CHECK"] do return "WITH CHECK " ++ inParens (← parenthesized g.expr).render
  return [roles, seen, written]

def policyName : Reader String := do
  let n ← name
  needWord "ON"
  return n.render ++ " ON " ++ dotted (← path d false)

def createPolicy : Reader String := do
  let head ← policyName d
  let kind ← whenWord "AS" do return "AS " ++ (← needOneOf ["PERMISSIVE", "RESTRICTIVE"])
  let use ← whenWord "FOR" do
    return "FOR " ++ (← needOneOf ["ALL", "SELECT", "INSERT", "UPDATE", "DELETE"])
  return spaced ([some "CREATE POLICY", some head, kind, use] ++ (← policyTail d g))

def alterPolicy : Reader String := do
  let head ← policyName d
  if ← word "RENAME" then
    needWord "TO"
    return "ALTER POLICY " ++ head ++ " RENAME TO " ++ (← name).render
  return spaced ([some "ALTER POLICY", some head] ++ (← policyTail d g))

def dropPolicy : Reader String := do
  let guard? ← ifExists?
  return spaced [some "DROP POLICY", guard?, some (← policyName d), ← dropMode?]

end QueryBridge.Source.Reader
