import QueryBridge.Source.Relations

set_option autoImplicit false

namespace QueryBridge.Source.Reader

variable (d : Dialect) (g : Deeper)

def starExclude? : Reader (Option String) := whenWord "EXCLUDE" do
  if ← isNext "(" then return "EXCLUDE " ++ inParens (identList (← nameList d))
  else return "EXCLUDE " ++ (← name).render

def starExcept? : Reader (Option String) := whenWord "EXCEPT" do
  if ← isNext "(" then return "EXCEPT " ++ inParens (identList (← nameList d))
  else return "EXCEPT " ++ inParens (← name).render

def starReplace? : Reader (Option String) := whenWord "REPLACE" do
  let items ← parenthesized (list d do
    let e ← g.expr
    let marked ← word "AS"
    return e.render ++ (if marked then " AS " else " ") ++ (← name).render)
  return "REPLACE " ++ inParens (commaJoin items)

def starRename? : Reader (Option String) := whenWord "RENAME" do
  let item : Reader String := do
    let n ← name
    needWord "AS"
    return n.render ++ " AS " ++ (← name).render
  if ← isNext "(" then return "RENAME " ++ inParens (commaJoin (← parenthesized (list d item)))
  else return "RENAME " ++ (← item)

def starOptions : Reader (List String) := do
  let unless? (b : Bool) (r : Reader (Option String)) : Reader (Option String) :=
    if b then r else return none
  let ilike ← unless? d.starIlike (whenWord "ILIKE" do return "ILIKE " ++ marked '\'' (← quotedText))
  let exclude ← unless? (d.starExclude && ilike.isNone) (starExclude? d)
  let except ← unless? d.starExcept (starExcept? d)
  let replace ← unless? d.starReplace (starReplace? d g)
  let rename ← unless? d.starRename (starRename? d)
  return [ilike, exclude, except, replace, rename].filterMap id

def item : Reader Item := do
  match ← starOr g with
  | .star => return .star (← starOptions d g)
  | .pathStar path => return .pathStar path (← starOptions d g)
  | .named _ => refuse
  | .expr e =>
    match e with
    | .ident n => if n.key = "FROM" then refuse
    | _ => pure ()
    return .expr e (← columnAlias?)

def distinct : Reader Distinct := do
  match ← treatment? with
  | some .distinct =>
    if ← word "ON" then
      needSymbol "("
      let keys ← if ← isNext ")" then pure [] else exprs d g
      needSymbol ")"
      return .on keys
    else return .distinct
  | _ => return .all

def top : Reader String := do
  let quantity ← if ← symbol "(" then
      let e ← g.expr
      needSymbol ")"
      pure (inParens e.render)
    else unsigned
  let percent ← word "PERCENT"
  let ties ← words ["WITH", "TIES"]
  return "TOP " ++ quantity ++ (if percent then " PERCENT" else "") ++ if ties then " WITH TIES" else ""

def into : Reader String := do
  let temporary ← oneOf ["TEMP", "TEMPORARY"]
  let unlogged ← word "UNLOGGED"
  let table ← word "TABLE"
  return "INTO" ++ (if temporary.isSome then " TEMPORARY" else "")
    ++ (if unlogged then " UNLOGGED" else "") ++ (if table then " TABLE" else "") ++ " "
    ++ dotted (← path d false)

def tuple (lifted : Bool) : Reader (List Expr) := do
  if ← symbol "(" then
    if ← symbol ")" then return []
    let es ← exprs d g
    needSymbol ")"
    return es
  else if lifted then return [← g.expr]
  else refuse

/-- Grouping by several lists of keys; a list of one key needs no parentheses if `lifted`. -/
def groupingSets (key : String) (lifted : Bool) : Reader Expr := do
  let sets ← parenthesized (list d (tuple d g lifted))
  let shown := sets.map fun set => match lifted, set with
    | true, [e] => e.render
    | _, es => inParens (renderedList es)
  return .phrase (key ++ " " ++ inParens (commaJoin shown))

def groupKey : Reader Expr := do
  if !d.groupingSets then g.expr
  else if ← words ["GROUPING", "SETS"] then groupingSets d g "GROUPING SETS" false
  else if ← word "CUBE" then groupingSets d g "CUBE" true
  else if ← word "ROLLUP" then groupingSets d g "ROLLUP" true
  else if ← symbols ["(", ")"] then return .phrase "()"
  else g.expr

def grouping : Reader Grouping := do
  if ← words ["GROUP", "BY"] then
    if ← word "ALL" then return .all else return .by (← list d (groupKey d g))
  else return .by []

def namedWindow (interval : Reader Expr) : Reader String := do
  let n ← name
  needWord "AS"
  if ← symbol "(" then return n.render ++ " AS " ++ inParens (← window d g interval)
  else if d.valueTables then return n.render ++ " AS " ++ (← name).render
  else refuse

/-- Window names, which both orders with QUALIFY allow. -/
def windowsAndQualify : Reader (Option String × Option String × Bool) := do
  let names : Reader (Option String) := whenWord "WINDOW" do
    return "WINDOW " ++ commaJoin (← list d (namedWindow d g (interval d g)))
  let condition : Reader (Option String) := whenWord "QUALIFY" do
    return "QUALIFY " ++ (← g.expr).render
  match ← names with
  | some windows => return (some windows, ← condition, true)
  | none =>
    match ← condition with
    | some qualify => return (← names, some qualify, false)
    | none => return (none, none, false)

def lateralView : Reader String := do
  let outer ← word "OUTER"
  let e ← g.expr
  let view ← path d false
  let columns := (← list d (label? ["WHERE", "GROUP", "CLUSTER", "HAVING", "LATERAL"])).filterMap id
  return "LATERAL VIEW" ++ (if outer then " OUTER " else " ") ++ e.render ++ " " ++ dotted view
    ++ if columns.isEmpty then "" else " AS " ++ identList columns

def hierarchy? : Reader (Option String) := do
  let start : Reader String := do needWords ["START", "WITH"]; return (← g.expr).render
  let step : Reader String := do
    needWords ["CONNECT", "BY"]
    return renderedList (← list d g.related)
  let text (first next : String) := "START WITH " ++ first ++ " CONNECT BY " ++ next
  if !d.hierarchies then return none
  match ← keyAt 0 with
  | "START" => let first ← start; return some (text first (← step))
  | "CONNECT" => let next ← step; return some (text (← start) next)
  | _ => return none

def select : Reader Select := do
  let mode ← if ← given d.valueTables (word "AS") then
      pure (some ("AS " ++ (← needOneOf ["VALUE", "STRUCT"])))
    else pure none
  let repeated ← distinct d g
  let top ← whenWord "TOP" (Reader.top g)
  let items ← listOf (listEnds d.projectionTrailingCommas) (item d g)
  let into ← whenWord "INTO" (Reader.into d)
  let sources ← if ← word "FROM" then list d (fromItem d g) else pure []
  let views ← many (whenWords ["LATERAL", "VIEW"] (lateralView d g))
  let selection ← whenWord "WHERE" g.expr
  let grouping ← Reader.grouping d g
  let clustered ← whenWords ["CLUSTER", "BY"] do return "CLUSTER BY " ++ (← listText d g)
  let distributed ← whenWords ["DISTRIBUTE", "BY"] do return "DISTRIBUTE BY " ++ (← listText d g)
  let sorted ← whenWords ["SORT", "BY"] do return "SORT BY " ++ (← listText d g)
  let having ← whenWord "HAVING" g.expr
  let (windows, qualify, windowsFirst) ← windowsAndQualify d g
  let hierarchy ← hierarchy? d g
  return { mode, distinct := repeated, top, items, into, sources, views, selection, grouping,
           tail := [clustered, distributed, sorted].filterMap id, having, windows, qualify,
           windowsFirst, hierarchy }

def setOp? : String → Option SetOp
  | "UNION" => some .union
  | "EXCEPT" => some .except
  | "INTERSECT" => some .intersect
  | _ => none

/-- UNION and EXCEPT bind alike; INTERSECT binds more tightly. -/
def setLevel : SetOp → Nat
  | .union | .except => 10
  | .intersect => 20

def quantifier? : Reader (Option Quantifier) := do
  if ← words ["DISTINCT", "BY", "NAME"] then return some .distinctByName
  if ← words ["BY", "NAME"] then return some .byName
  if ← words ["ALL", "BY", "NAME"] then return some .allByName
  if ← word "ALL" then return some .all
  if ← word "DISTINCT" then return some .distinct
  return none

/-- A relation as a body of its own, with or without a schema. What stands in the place of a point and
of a second name is taken all the same. -/
def wholeTable : Reader String := do
  let first ← peek
  let point ← peekAt 1
  let last ← peekAt 2
  skip 3
  match first, point, last with
  | some (.word schema), some (.symbol "."), some (.word table) =>
    return "TABLE " ++ schema.text ++ "." ++ table.text
  | some (.word _), some (.symbol "."), _ => refuse
  | some (.word table), _, _ => return "TABLE " ++ table.text
  | _, _, _ => refuse

def bodyOperand : Reader Body := do
  if ← word "SELECT" then return .select (← select d g)
  if ← symbol "(" then
    let q ← g.query
    needSymbol ")"
    return .query q
  if ← word "VALUES" then return .phrase (← valuesText d g)
  if ← word "TABLE" then return .phrase (← wholeTable)
  refuse

/-- Operands of a level tighter than `outer`; there are two levels of set operations. -/
def bodyWithin : Nat → Nat → Reader Body
  | 0, _ => refuse
  | fuel + 1, outer => do
    chain (fun left => do
      match setOp? (← keyAt 0) with
      | none => return none
      | some op =>
        if setLevel op ≤ outer then return none
        skip 1
        let quantifier ← quantifier?
        return some (.setOp op quantifier left (← bodyWithin fuel (setLevel op))))
      (← bodyOperand d g)

def body : Reader Body := bodyWithin d g 3 0

def cte : Reader Cte := do
  let n ← name
  let columns ← if (← keyAt 0) = "AS" then pure [] else aliasColumns d
  needWord "AS"
  let materialized ← if !d.materializedCtes then pure none
    else if ← word "MATERIALIZED" then pure (some "MATERIALIZED")
    else if ← words ["NOT", "MATERIALIZED"] then pure (some "NOT MATERIALIZED")
    else pure none
  let query ← parenthesized g.query
  return { label := ⟨n, columns⟩, materialized, query, source := ← whenWord "FROM" name }

structure Limits where
  limit : Option Expr := none
  offset : Option Expr := none
  offsetRows : Option String := none

/-- One round of LIMIT and OFFSET; the round before may have read either. -/
def limitRound (l : Limits) : Reader Limits := do
  let mut l := l
  if ← given l.limit.isNone (word "LIMIT") then
    if !(← word "ALL") then l := { l with limit := some (← g.expr) }
  if ← given l.offset.isNone (word "OFFSET") then
    let offset ← g.expr
    l := { l with offset := some offset, offsetRows := ← oneOf ["ROW", "ROWS"] }
  if ← given (d.limitComma && l.limit.isSome && l.offset.isNone) (symbol ",") then
    l := { l with offset := l.limit, limit := some (← g.expr) }
  return l

def fetch : Reader String := do
  let _ ← needOneOf ["FIRST", "NEXT"]
  let amount ← match ← oneOf ["ROW", "ROWS"] with
    | some _ => pure ""
    | none =>
      let v ← value
      let percent ← word "PERCENT"
      let _ ← needOneOf ["ROW", "ROWS"]
      pure (" " ++ v.render ++ if percent then " PERCENT" else "")
  let ties ← if ← word "ONLY" then pure false else needWords ["WITH", "TIES"]; pure true
  return "FETCH FIRST" ++ amount ++ " ROWS " ++ if ties then "WITH TIES" else "ONLY"

def lock : Reader String := do
  let kind ← needOneOf ["UPDATE", "SHARE"]
  let target ← whenWord "OF" do return "OF " ++ dotted (← path d false)
  let wait ← if ← word "NOWAIT" then pure (some "NOWAIT")
    else if ← words ["SKIP", "LOCKED"] then pure (some "SKIP LOCKED") else pure none
  return "FOR " ++ kind ++ behindBlank target ++ behindBlank wait

/-- The options behind a comma each that are known, in the order in which they are listed. Of two
alike the later one counts. -/
def formOptions (known : List String) : Reader String := do
  let options ← many do
    if !(← symbol ",") then return none
    if ← word "ROOT" then return some ("ROOT('" ++ (← parenthesized (literalText d)) ++ "')")
    if ← given ("BINARY BASE64" ∈ known) (word "BINARY") then
      needWord "BASE64"
      return some "BINARY BASE64"
    return some ((← oneOf known).getD "")
  let chosen := known.filterMap fun key => (options.filter (key.isPrefixOf ·)).getLast?
  return String.join (chosen.map (", " ++ ·))

def markup? : Reader (Option String) := do
  if ← word "XML" then
    let mode ← needOneOf ["RAW", "AUTO", "EXPLICIT", "PATH"]
    let element ← if ← given (mode ∈ ["RAW", "PATH"]) (isNext "(") then
        pure ("('" ++ (← parenthesized (literalText d)) ++ "')")
      else pure ""
    return some ("FOR XML " ++ mode ++ element
      ++ (← formOptions d ["BINARY BASE64", "TYPE", "ROOT", "ELEMENTS"]))
  if ← word "JSON" then
    let mode ← needOneOf ["AUTO", "PATH"]
    return some ("FOR JSON " ++ mode
      ++ (← formOptions d ["ROOT", "INCLUDE_NULL_VALUES", "WITHOUT_ARRAY_WRAPPER"]))
  if ← word "BROWSE" then return some "FOR BROWSE"
  return none

def locksAndMarkup : Reader (List String × Option String) := do
  let (locks, form) ← chain (fun (found : List String × Option String) => do
    if found.2.isSome then return none
    if !(← word "FOR") then return none
    match ← markup? d with
    | some text => return some (found.1, some text)
    | none => return some ((← lock d) :: found.1, none)) ([], none)
  return (locks.reverse, form)

end QueryBridge.Source.Reader
