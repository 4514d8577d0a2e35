import QueryBridge.Source.Lexer
import QueryBridge.Source.Sessions

set_option autoImplicit false

namespace QueryBridge.Source

namespace Reader

variable (d : Dialect) (g : Deeper)

def query : Reader Query := do
  let (recursive, ctes) ← if ← word "WITH" then
      let recursive ← word "RECURSIVE"
      pure (recursive, ← list d (cte d g))
    else pure (false, [])
  let change? ← if ← word "INSERT" then some <$> insert d g
    else whenWord "UPDATE" (update d g)
  match change? with
  | some text => return { bareQuery (.phrase text) with ctes, recursive }
  | none =>
    let body ← Reader.body d g
    let orderBy ← if ← words ["ORDER", "BY"] then orderItems d g else pure []
    let limits ← limitRound d g (← limitRound d g {})
    let fetch ← whenWord "FETCH" Reader.fetch
    let (locks, markup) ← locksAndMarkup d
    return { ctes, recursive, body, orderBy, limit := limits.limit, offset := limits.offset,
             offsetRows := limits.offsetRows, fetch, locks, markup }

def planOptions : Reader String := do
  let option : Reader String := do
    let n ← name
    if (← isNext ",") || (← isNext ")") then return n.render
    return n.render ++ " " ++ (← g.expr).render
  return inParens (commaJoin (← parenthesized (list d option)))

def planText (verb : String) : Reader String := do
  if verb = "EXPLAIN" && d.planOptions && (← isNext "(") then
    return verb ++ " " ++ (← planOptions d g)
  if ← words ["QUERY", "PLAN"] then return verb ++ " QUERY PLAN"
  let analyze ← word "ANALYZE"
  let verbose ← word "VERBOSE"
  let format ← whenWord "FORMAT" do return "FORMAT " ++ (← needOneOf ["TEXT", "JSON", "GRAPHVIZ"])
  return spaced [some verb, whenTrue analyze "ANALYZE", whenTrue verbose "VERBOSE", format]

/-- An EXPLAIN behind its first keyword `verb`; another EXPLAIN cannot stand inside. -/
def explain (verb : String) : Reader String := do
  let plan ← planText d g verb
  let nested := (← keyAt 0) ∈ ["EXPLAIN", "DESCRIBE", "DESC"]
  match ← attempt g.statement with
  | some s => if nested then refuse else return plan ++ " " ++ s.render
  | none =>
    let format ← oneOf ["EXTENDED", "FORMATTED"]
    let table ← given d.describedTables (word "TABLE")
    return spaced [some verb, format, whenTrue table "TABLE", some (dotted (← path d false))]

def prepare : Reader String := do
  let n ← name
  let types ← if ← isNext "(" then
      let types ← parenthesized (list d do return (← type d).text)
      pure (some (inParens (commaJoin types)))
    else pure none
  needWord "AS"
  return spaced [some "PREPARE", some n.render, types, some "AS", some (← g.statement).render]

def command? (key : String) : Option (Reader String) :=
  match key with
  | "DELETE" => some (delete d g)
  | "INSERT" => some (insert d g)
  | "UPDATE" => some (update d g)
  | "MERGE" => some (merge d g)
  | "CREATE" => some (create d g)
  | "ALTER" => some (alter d g)
  | "DROP" => some (drop d g)
  | "TRUNCATE" => some (truncate d g)
  | "COMMENT" => if d.commentStatements then some (comment d) else none
  | "EXPLAIN" | "DESCRIBE" | "DESC" => some (explain d g key)
  | "PREPARE" => some (prepare d g)
  | "COPY" => some do
    if ← given (d = .snowflake) (word "INTO") then copyInto d else copy d g
  | "UNLOAD" => some (unload d g)
  | "GRANT" => some (grant d)
  | "REVOKE" => some (revoke d)
  | _ => sessionCommand? d g key

def statement : Reader Statement := do
  let key ← keyAt 0
  if key ∈ ["SELECT", "WITH", "VALUES"] || (← isNext "(") then return .query (← g.query)
  if key = "REPLACE" && d = .sqlite then return .other (← insert d g)
  match command? d g key with
  | some r => skip 1; return .other (← r)
  | none => refuse

def deeper (inHierarchy : Bool) : Nat → Deeper
  | 0 => ⟨fun _ => throw .tooDeep, throw .tooDeep, throw .tooDeep, throw .tooDeep, inHierarchy⟩
  | depth + 1 =>
    let g := deeper inHierarchy depth
    let h := if inHierarchy then g else deeper true depth
    ⟨subexpr d g, query d g, statement d g, subexpr d h 0, inHierarchy⟩

def statements : Reader (List Statement) := statementList (deeper d false 50).statement

end Reader

def parse? (d : Dialect) (text : String) : Option (List Statement) := do
  let lexemes ← lex? d text
  match (Reader.statements d).run lexemes with
  | .ok (found, _) => some found
  | .error _ => none

end QueryBridge.Source
