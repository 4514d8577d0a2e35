import QueryBridge.Source.Tables

set_option autoImplicit false

namespace QueryBridge.Source.Reader

variable (d : Dialect) (g : Deeper)

/-- An argument; a type of no built-in name in front of another type is the name of the argument. -/
def routineArg : Reader String := do
  let mode ← oneOf ["IN", "OUT", "INOUT"]
  let first? ← peek
  let t ← type d
  let (label, t) ← match t.own, first? with
    | true, some (.word n) => pure (some n.render, ← type d)
    | _, _ => pure (none, t)
  let default ← if ← either (word "DEFAULT") (symbol "=") then pure (some ("= " ++ (← g.expr).render))
    else pure none
  return spaced [mode, label, some t.text, default]

def routineArgs : Reader String := do
  if ← symbol ")" then return ""
  let args ← list d (routineArg d g)
  needSymbol ")"
  return inParens (commaJoin args)

def bodyText : Reader String := do
  match ← peek with
  | some (.string (.dollar tag) text) => skip 1; return StringForm.render (.dollar tag) text
  | _ => return marked '\'' (← literalText d)

def routineClause? : Reader (Option (String × String)) := do
  if ← word "AS" then return some ("BODY", "AS " ++ (← bodyText d))
  if ← word "LANGUAGE" then return some ("LANGUAGE", "LANGUAGE " ++ (← name).render)
  if let some key ← oneOf ["IMMUTABLE", "STABLE", "VOLATILE"] then return some ("BEHAVIOR", key)
  if ← words ["CALLED", "ON", "NULL", "INPUT"] then return some ("NULLS", "CALLED ON NULL INPUT")
  if ← words ["RETURNS", "NULL", "ON", "NULL", "INPUT"] then
    return some ("NULLS", "RETURNS NULL ON NULL INPUT")
  if ← word "STRICT" then return some ("NULLS", "STRICT")
  if ← word "PARALLEL" then
    return some ("PARALLEL", "PARALLEL " ++ (← needOneOf ["UNSAFE", "RESTRICTED", "SAFE"]))
  if ← word "RETURN" then return some ("BODY", "RETURN " ++ (← g.expr).render)
  return none

def returns? : Reader (Option String) := whenWord "RETURNS" do return "RETURNS " ++ (← type d).text

def createFunction (head : String) : Reader String := do
  let name ← path d false
  needSymbol "("
  let args ← routineArgs d g
  let result ← returns? d
  let clauses ← chain (fun (found : List (String × String)) => do
    match ← routineClause? d g with
    | none => return none
    | some (about, text) =>
      if (found.lookup about).isSome then refuse else return some ((about, text) :: found)) []
  let shown := ["LANGUAGE", "BEHAVIOR", "NULLS", "PARALLEL", "BODY"].map fun about => clauses.lookup about
  return spaced ([some head, some ("FUNCTION " ++ dotted name ++ args), result] ++ shown)

def createExpressionFunction (head : String) : Reader String := do
  let guard? ← unlessExists?
  let name ← path d false
  needSymbol "("
  let args ← listBefore d ")" do
    let n ← Reader.name
    return n.render ++ " " ++ (← type d).text
  needSymbol ")"
  let result ← returns? d
  let fixed ← if ← word "DETERMINISTIC" then pure (some "DETERMINISTIC")
    else pure (whenTrue (← words ["NOT", "DETERMINISTIC"]) "NOT DETERMINISTIC")
  let language ← whenWord "LANGUAGE" do return "LANGUAGE " ++ (← Reader.name).render
  let remote ← whenWords ["REMOTE", "WITH", "CONNECTION"] do
    return "REMOTE WITH CONNECTION " ++ dotted (← path d false)
  let before ← options? d g
  let body ← if remote.isSome then pure none
    else
      needWord "AS"
      pure (some ("AS " ++ (← g.expr).render))
  let after ← if remote.isNone && before.isNone then options? d g else pure none
  return spaced [some head, some "FUNCTION", guard?, some (dotted name ++ inParens (commaJoin args)), result,
    fixed, language, remote, before, body, after]

def createMacro (head : String) : Reader String := do
  let name ← path d false
  let arg : Reader String := do
    let n ← Reader.name
    if ← either (symbol ":=") (symbol "=>") then return n.render ++ " := " ++ (← g.expr).render
    return n.render
  needSymbol "("
  let args ← if ← isNext ")" then pure none else some <$> list d arg
  needSymbol ")"
  needWord "AS"
  let body ← if ← word "TABLE" then pure ("TABLE " ++ (← g.query).render) else pure (← g.expr).render
  let shown := match args with
    | some args => inParens (commaJoin args)
    | none => ""
  return spaced [some head, some ("MACRO " ++ dotted name ++ shown), some ("AS " ++ body)]

def semicolons : Reader Bool :=
  return !(← many (do if ← symbol ";" then return some () else return none)).isEmpty

/-- The next statement; one that is not the first needs a semicolon in front of it. -/
def nextStatement? (statement : Reader Statement) (first : Bool) : Reader (Option Statement) := do
  let separated ← semicolons
  match ← peek with
  | none => return none
  | some lexeme =>
    if first || separated then some <$> statement
    else if lexeme.key = "END" then return none
    else refuse

def statementList (statement : Reader Statement) : Reader (List Statement) := do
  match ← nextStatement? statement true with
  | none => return []
  | some s => return s :: (← many (nextStatement? statement false))

/-- Parameters behind an opening parenthesis; commas can be missing or doubled at the ends. -/
def procedureParams : Reader (List String) := do
  let (found, closed) ← chain (fun (found : List String × Bool) => do
    if found.2 then return none
    let found ← if (← peek).any (·.isWord) then
        let n ← name
        pure ((n.render ++ " " ++ (← type d).text) :: found.1)
      else pure found.1
    let comma ← symbol ","
    if ← symbol ")" then return some (found, true)
    if comma then return some (found, false) else refuse) ([], false)
  if !closed then refuse
  return found.reverse

def createProcedure (altered : Bool) : Reader String := do
  let name ← path d false
  let params ← if ← symbols ["(", ")"] then pure []
    else if ← symbol "(" then procedureParams d
    else pure []
  needWords ["AS", "BEGIN"]
  let body ← statementList g.statement
  needWord "END"
  return spaced [some "CREATE", whenTrue altered "OR ALTER", some "PROCEDURE", some (dotted name),
    if params.isEmpty then none else some (inParens (commaJoin params)), some "AS BEGIN",
    some ("; ".intercalate (body.map (·.render))), some "END"]

def routineName : Reader String := do
  let name ← path d false
  if ← symbol "(" then return dotted name ++ (← routineArgs d g) else return dotted name

def triggerEvent : Reader String := do
  match ← needOneOf ["INSERT", "UPDATE", "DELETE", "TRUNCATE"] with
  | "UPDATE" => if ← word "OF" then return "UPDATE OF " ++ identList (← list d name) else return "UPDATE"
  | key => return key

def transition? : Reader (Option String) := do
  match ← oneOf ["OLD", "NEW"] with
  | none => return none
  | some key =>
    if !(← word "TABLE") then return none
    let marked ← word "AS"
    return some (key ++ " TABLE " ++ (if marked then "AS " else "") ++ dotted (← path d false))

def createTrigger (head : String) : Reader String := do
  let name ← path d false
  let time ← match ← needOneOf ["BEFORE", "AFTER", "INSTEAD"] with
    | "INSTEAD" => needWord "OF"; pure "INSTEAD OF"
    | key => pure key
  let first ← triggerEvent d
  let more ← many (whenWord "OR" (triggerEvent d))
  needWord "ON"
  let table ← path d false
  let other ← whenWord "FROM" do return "FROM " ++ dotted (← path d true)
  let checked ← enforcement
  let transitions ← if ← word "REFERENCING" then many (transition? d) else pure []
  needWord "FOR"
  let each ← word "EACH"
  let unit ← needOneOf ["ROW", "STATEMENT"]
  let condition ← whenWord "WHEN" do return "WHEN " ++ (← g.expr).render
  needWord "EXECUTE"
  let kind ← needOneOf ["FUNCTION", "PROCEDURE"]
  let called ← routineName d g
  return spaced [some head, some "TRIGGER", some (dotted name), some time,
    some (" OR ".intercalate (first :: more)), some ("ON " ++ dotted table), other,
    if checked.isEmpty then none else some (checked.drop 1).toString,
    if transitions.isEmpty then none else some ("REFERENCING " ++ spaceJoin transitions),
    some (if each then "FOR EACH" else "FOR"), some unit, condition, some "EXECUTE", some kind, some called]

def dropRoutine (kind : String) : Reader String := do
  let guard? ← ifExists?
  let routines ← list d (routineName d g)
  return spaced [some "DROP", some kind, guard?, some (commaJoin routines), ← dropMode?]

def dropTrigger : Reader String := do
  let guard? ← ifExists?
  let name ← path d false
  needWord "ON"
  let table ← path d false
  return spaced [some "DROP TRIGGER", guard?, some (dotted name), some ("ON " ++ dotted table), ← dropMode?]

end QueryBridge.Source.Reader
