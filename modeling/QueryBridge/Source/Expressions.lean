import QueryBridge.Source.Precedence

set_option autoImplicit false

namespace QueryBridge.Source

structure Deeper where
  subexpr : Nat → Reader Expr
  query : Reader Query
  statement : Reader Statement
  related : Reader Expr
  /-- Whether the row above can be named, as in a hierarchy. -/
  inHierarchy : Bool

def Deeper.expr (g : Deeper) : Reader Expr := g.subexpr 0

def isPlain : StringForm → Bool
  | .plain _ => true
  | _ => false

namespace Reader

variable (d : Dialect) (g : Deeper)

def exprs : Reader (List Expr) := list d g.expr

def subqueryAhead : Reader Bool := return (← keyAt 0) ∈ ["SELECT", "WITH"]

def renderedList (es : List Expr) : String := commaJoin (es.map (·.render))

def orderItem : Reader OrderItem := do
  let expr ← g.expr
  let ascending ← oneOf ["ASC", "DESC"]
  let nullsFirst ← if ← words ["NULLS", "FIRST"] then pure (some true)
    else if ← words ["NULLS", "LAST"] then pure (some false) else pure none
  return { expr, ascending := ascending.map (· = "ASC"), nullsFirst }

def orderItems : Reader (List OrderItem) := list d (orderItem g)

def orderText : Reader String := return commaJoin ((← orderItems d g).map (·.render))

def listText : Reader String := return renderedList (← exprs d g)

def timeField : Reader String := do
  match ← next with
  | .word n =>
    if n.key = "WEEK" && d.valueTables && (← isNext "(") then
      return "WEEK" ++ inParens (← parenthesized name).render
    else if timeUnits.contains n.key || moreTimeFields.contains n.key then return n.key
    else if d.anyExtractField then return n.render
    else refuse
  | .string (.plain '\'') text =>
    if d.anyExtractField then return (Ident.quoted '\'' text).render else refuse
  | _ => refuse

def intervalTail : Reader String := do
  if !timeUnits.contains (← keyAt 0) then
    if d.intervalNeedsUnit then refuse
    return (← leadingSize) ++ (← lastField)
  let unit ← timeField d
  if unit = "SECOND" then
    if ← symbol "(" then
      let n ← unsigned
      let more ← if ← symbol "," then pure (", " ++ (← unsigned)) else pure ""
      needSymbol ")"
      return " SECOND " ++ inParens (n ++ more)
    return " SECOND"
  return " " ++ unit ++ (← leadingSize) ++ (← lastField)
where
  leadingSize : Reader String := do
    let n ← size?
    return if n.isEmpty then "" else " " ++ n
  lastField : Reader String := do
    if ← word "TO" then
      let last ← timeField d
      return " TO " ++ last ++ (← if last = "SECOND" then leadingSize else pure "")
    else return ""

def frameBound (interval : Reader Expr) : Reader String := do
  if ← words ["CURRENT", "ROW"] then return "CURRENT ROW"
  let amount ← if ← word "UNBOUNDED" then pure "UNBOUNDED"
    else match ← peek with
      | some (.string (.plain '\'') _) => pure (← interval).render
      | _ => pure (← g.expr).render
  return amount ++ " " ++ (← needOneOf ["PRECEDING", "FOLLOWING"])

def frame (interval : Reader Expr) : Reader String := do
  let units ← needOneOf ["ROWS", "RANGE", "GROUPS"]
  if ← word "BETWEEN" then
    let first ← frameBound g interval
    needWord "AND"
    return units ++ " BETWEEN " ++ first ++ " AND " ++ (← frameBound g interval)
  return units ++ " " ++ (← frameBound g interval)

def window (interval : Reader Expr) : Reader String := do
  let named ← match ← peek with
    | some (.word n) => if isKeyword n.key then pure none else skip 1; pure (some n.render)
    | _ => pure none
  let partition ← whenWords ["PARTITION", "BY"] do return "PARTITION BY " ++ (← listText d g)
  let order ← whenWords ["ORDER", "BY"] do return "ORDER BY " ++ (← orderText d g)
  let bounds ← if ← isNext ")" then pure none else some <$> frame g interval
  needSymbol ")"
  return spaceJoin ([named, partition, order, bounds].filterMap id)

def pathParts (starred : Bool) (first : Ident) : Reader (List Ident × Bool) := do
  let parts ← chain (fun (parts : List Ident × Bool) => do
    if parts.2 then return none
    if ← symbol "." then
      match ← next with
      | .word n => return some (n :: parts.1, false)
      | .string (.plain '\'') text => return some (.quoted '\'' text :: parts.1, false)
      | .symbol "*" => if starred then return some (parts.1, true) else refuse
      | _ => refuse
    else return none) ([first], false)
  return (parts.1.reverse, parts.2)

def starOr : Reader Arg := do
  let start ← get
  let first? := match start with
    | ⟨.word n, _⟩ :: ⟨.symbol ".", _⟩ :: _ => some n
    | ⟨.string (.plain '\'') text, _⟩ :: ⟨.symbol ".", _⟩ :: _ => some (.quoted '\'' text)
    | _ => none
  if ← symbol "*" then return .star
  match first? with
  | none => return .expr (← g.expr)
  | some first =>
    skip 1
    let (parts, starred) ← pathParts true first
    if starred then return .pathStar parts
    set start
    return .expr (← g.expr)

def nameMark : Reader String := do
  if ← word "VALUE" then return "VALUE"
  match ← next with
  | .symbol "=>" => return "=>"
  | .symbol "=" => if d.namedByAssignment then return "=" else refuse
  | .symbol ":=" => if d.namedByAssignment then return ":=" else refuse
  | .symbol ":" => if d.namedByExpressions then return ":" else refuse
  | _ => refuse

def namedArg : Reader Arg := do
  let key ← if d.namedByExpressions then pure (← g.expr).render else pure (← name).render
  return .named (key ++ " " ++ (← nameMark d) ++ " " ++ (← starOr g).render)

def arg : Reader Arg := do
  match ← attempt (namedArg d g) with
  | some a => return a
  | none => starOr g

def nullTreatment? : Reader (Option NullTreatment) := do
  match ← oneOf ["RESPECT", "IGNORE"] with
  | some key =>
    needWord "NULLS"
    return some (if key = "RESPECT" then .respect else .ignore)
  | none => return none

def treatment? : Reader (Option Quantifier) := do
  let all ← word "ALL"
  let distinct ← word "DISTINCT"
  if all && distinct then refuse
  return if all then some .all else if distinct then some .distinct else none

def overflowClause : Reader String := do
  if ← word "ERROR" then return "ON OVERFLOW ERROR"
  needWord "TRUNCATE"
  let filler ← match ← peek with
    | some (.string form _) => if fills form then pure (" " ++ (← g.expr).render) else refuse
    | _ => pure ""
  let counted ← needOneOf ["WITH", "WITHOUT"]
  needWord "COUNT"
  return "ON OVERFLOW TRUNCATE" ++ filler ++ " " ++ counted ++ " COUNT"
where
  fills : StringForm → Bool
    | .plain '\'' | .escaped | .unicode | .national | .hex => true
    | _ => false

def nullClause? : Reader (Option String) := do
  if ← words ["ABSENT", "ON", "NULL"] then return some "ABSENT ON NULL"
  if ← words ["NULL", "ON", "NULL"] then return some "NULL ON NULL"
  return none

def arguments : Reader (Args × Bool) := do
  let first ← nullClause?
  if ← symbol ")" then return (.list none [] first.toList, false)
  let treatment ← treatment?
  let args ← list d (arg d g)
  let nulls ← if d.nullTreatmentInside then nullTreatment? else pure none
  let order ← whenWords ["ORDER", "BY"] do return "ORDER BY " ++ (← orderText d g)
  let limit ← whenWord "LIMIT" do return "LIMIT " ++ (← g.expr).render
  let bound ← if ← given d.havingBounds (word "HAVING") then
      let kind ← needOneOf ["MIN", "MAX"]
      pure (some ("HAVING " ++ kind ++ " " ++ (← g.expr).render))
    else pure none
  let overflow ← whenWords ["ON", "OVERFLOW"] (overflowClause g)
  let last ← nullClause?
  needSymbol ")"
  return (.list treatment args
    ([first, nulls.map (·.text), order, limit, bound, overflow, last].filterMap id), nulls.isSome)

def filterOpens : Reader Bool := do
  if ← given d.filterClauses (word "FILTER") then
    if ← symbol "(" then word "WHERE" else return false
  else return false

def plainCall (name : List Ident) (args : Args) : Call where
  name := name
  args := args
  withinGroup := none
  filter := none
  nulls := none
  windowed := none
  braced := false

def call (interval : Reader Expr) (name : List Ident) : Reader Call := do
  needSymbol "("
  if d.bareQueryArguments && (← subqueryAhead) then
    let q ← g.query
    needSymbol ")"
    return plainCall name (.query q)
  let (args, hasNulls) ← arguments d g
  let withinGroup ← whenWords ["WITHIN", "GROUP"] do
    let keys ← parenthesized do needWords ["ORDER", "BY"]; orderText d g
    return "WITHIN GROUP " ++ inParens ("ORDER BY " ++ keys)
  let filter ← if ← filterOpens d then
      let condition ← g.expr
      needSymbol ")"
      pure (some ("FILTER " ++ inParens ("WHERE " ++ condition.render)))
    else pure none
  let nulls ← if hasNulls then pure none else nullTreatment?
  let windowed ← whenWord "OVER" do
    if ← symbol "(" then return "OVER " ++ inParens (← window d g interval)
    else return "OVER " ++ (← Reader.name).render
  return { plainCall name args with withinGroup, filter, nulls, windowed }

def timeCall : Reader Expr := do
  let n ← name
  let args ← if ← symbol "(" then pure (← arguments d g).1 else pure .none
  return .call (plainCall [n] args)

def caseExpr : Reader Expr := do
  let operand ← if ← word "WHEN" then pure none
    else do
      let e ← g.expr
      needWord "WHEN"
      pure (some e)
  let branch : Reader (Expr × Expr) := do
    let condition ← g.expr
    needWord "THEN"
    return (condition, ← g.expr)
  let first ← branch
  let more ← many (whenWord "WHEN" branch)
  let otherwise ← whenWord "ELSE" g.expr
  needWord "END"
  return .case operand (first :: more) otherwise

def castFormat? : Reader (Option String) := whenWord "FORMAT" do
  let v ← value
  if ← words ["AT", "TIME", "ZONE"] then
    return v.render ++ " AT TIME ZONE " ++ (← value).render
  return v.render

def castExpr (kind : CastKind) : Reader Expr := parenthesized do
  let e ← g.expr
  needWord "AS"
  let t ← type d
  return .cast kind e t.text (← castFormat?)

def convertExpr : Reader Expr := do
  let inner ← parenthesized do
    let e ← g.expr
    if ← word "USING" then return e.render ++ " USING " ++ dotted (← path d false)
    needSymbol ","
    let t ← type d
    let charset ← whenWords ["CHARACTER", "SET"] do return "CHARACTER SET " ++ dotted (← path d false)
    return e.render ++ ", " ++ t.text ++ behindBlank charset
  return .phrase ("CONVERT" ++ inParens inner)

def extractExpr : Reader Expr := do
  let inner ← parenthesized do
    let field ← timeField d
    if ← word "FROM" then return field ++ " FROM " ++ (← g.expr).render
    if ← given d.extractByComma (symbol ",") then return field ++ ", " ++ (← g.expr).render
    refuse
  return .phrase ("EXTRACT" ++ inParens inner)

def roundExpr (key : String) : Reader Expr := do
  let inner ← parenthesized do
    let e ← g.expr
    if ← word "TO" then return e.render ++ " TO " ++ (← timeField d)
    if ← symbol "," then
      match ← value with
      | .number text long => return e.render ++ ", " ++ (Value.number text long).render
      | _ => refuse
    return e.render
  return .phrase (key ++ inParens inner)

def positionExpr : Reader Expr := do
  let inner ← parenthesized do
    let e ← g.subexpr (level d .between)
    needWord "IN"
    return e.render ++ " IN " ++ (← g.expr).render
  return .phrase ("POSITION" ++ inParens inner)

def substringExpr : Reader Expr := do
  let inner ← parenthesized do
    let e ← g.expr
    let commas ← symbol ","
    let start ← if commas then some <$> g.expr else whenWord "FROM" g.expr
    let count ← if ← either (word "FOR") (symbol ",") then some <$> g.expr else pure none
    let part (mark : String) (x : Option Expr) := match x with
      | some x => (if commas then ", " else mark) ++ x.render
      | none => ""
    return e.render ++ part " FROM " start ++ part " FOR " count
  return .phrase ("SUBSTRING" ++ inParens inner)

def overlayExpr : Reader Expr := do
  let inner ← parenthesized do
    let e ← g.expr
    needWord "PLACING"
    let text ← g.expr
    needWord "FROM"
    let start ← g.expr
    let count ← whenWord "FOR" do return "FOR " ++ (← g.expr).render
    return e.render ++ " PLACING " ++ text.render ++ " FROM " ++ start.render ++ behindBlank count
  return .phrase ("OVERLAY" ++ inParens inner)

def trimExpr : Reader Expr := do
  let inner ← parenthesized do
    let side ← oneOf ["BOTH", "LEADING", "TRAILING"]
    let e ← g.expr
    let lead := match side with
      | some key => key ++ " "
      | none => ""
    if ← word "FROM" then return lead ++ e.render ++ " FROM " ++ (← g.expr).render
    let comma ← symbol ","
    if comma && d.trimCharacters then return e.render ++ ", " ++ (← listText d g)
    return lead ++ e.render
  return .phrase ("TRIM" ++ inParens inner)

def arrayItems (named : Bool) : Reader Expr := do
  needSymbol "["
  let items ← listBefore d "]" g.expr
  needSymbol "]"
  return .array named items

def structExpr : Reader Expr := do
  needWord "STRUCT"
  let (fields, closes) ← structFields (typeWithin d ((← get).length + 1))
  if closes then refuse
  let values ← parenthesized (list d do
    let e ← g.expr
    if ← word "AS" then
      if !fields.isEmpty then refuse
      return e.render ++ " AS " ++ (← name).render
    return e.render)
  let head := if fields.isEmpty then "STRUCT" else "STRUCT<" ++ commaJoin fields ++ ">"
  return .phrase (head ++ inParens (commaJoin values))

def entry (key : Reader String) : Reader String := do
  let k ← key
  needSymbol ":"
  return k ++ ": " ++ (← g.expr).render

def mapExpr : Reader Expr := do
  needSymbol "\x7b"
  let entries ← listBefore d "\x7d" (entry g (return (← g.expr).render))
  needSymbol "\x7d"
  return .phrase ("MAP " ++ inBraces (commaJoin entries))

/-- A call that stands in braces behind `FN`, or else a dictionary, which has one entry at least. -/
def bracedExpr (interval : Reader Expr) : Reader Expr := do
  needSymbol "\x7b"
  let called ← attempt do
    needWord "FN"
    let c ← call d g interval (← path d false)
    needSymbol "\x7d"
    return { c with braced := true }
  match called with
  | some c => return .call c
  | none =>
    if !d.dictionaries then refuse
    let entries ← list d (entry g (return (← name).render))
    needSymbol "\x7d"
    return .phrase (inBraces (commaJoin entries))

def construct (interval : Reader Expr) : Reader (Option Expr) := do
  let key ← keyAt 0
  let opened (r : Reader Expr) : Reader (Option Expr) := do skip 1; some <$> r
  match key with
  | "TRUE" | "FALSE" | "NULL" => return some (.value (← value))
  | "CURRENT_CATALOG" | "CURRENT_USER" | "SESSION_USER" | "USER" =>
    if d.sessionWords then return some (.call (plainCall [← name] .none))
    else return none
  | "CURRENT_TIMESTAMP" | "CURRENT_TIME" | "CURRENT_DATE" | "LOCALTIME" | "LOCALTIMESTAMP" =>
    some <$> timeCall d g
  | "CASE" => opened (caseExpr g)
  | "CONVERT" => opened (convertExpr d g)
  | "CAST" => opened (castExpr d g .cast)
  | "TRY_CAST" => opened (castExpr d g .tryCast)
  | "SAFE_CAST" => opened (castExpr d g .safeCast)
  | "EXISTS" => opened do return .exists (← parenthesized g.query) false
  | "EXTRACT" => opened (extractExpr d g)
  | "CEIL" | "FLOOR" => opened (roundExpr d g key)
  | "POSITION" =>
    if (← peekAt 1) = some (.symbol "(") then
      let n ← name
      match ← attempt (positionExpr d g) with
      | some e => return some e
      | none => return some (.call (← call d g interval [n]))
    else return none
  | "SUBSTRING" => opened (substringExpr g)
  | "OVERLAY" => opened (overlayExpr g)
  | "TRIM" => opened (trimExpr d g)
  | "INTERVAL" => opened interval
  | "ARRAY" =>
    match ← peekAt 1 with
    | some (.symbol "[") => opened (arrayItems d g true)
    | some (.symbol "(") =>
      let n ← name
      return some (.call (plainCall [n] (.query (← parenthesized g.query))))
    | _ => return none
  | "NOT" => opened do
    if ← word "EXISTS" then return .exists (← parenthesized g.query) true
    return .signed .not (← g.subexpr (level d .not))
  | "STRUCT" => if d.structLiterals then some <$> structExpr d g else return none
  | "MAP" =>
    if d.mapLiterals && (← peekAt 1) = some (.symbol "\x7b") then opened (mapExpr d g) else return none
  | "PRIOR" =>
    if g.inHierarchy then
      opened do return .phrase ("PRIOR " ++ (← g.subexpr (level d .plus)).render)
    else return none
  | _ => return none

def nameExpr (interval : Reader Expr) : Reader Expr := do
  match ← next with
  | .word first =>
    match ← peek with
    | some (.symbol ".") | some (.symbol "(") =>
      let (parts, starred) ← pathParts d.starredPaths first
      if starred then return .phrase (dotted parts ++ ".*")
      if ← given d.outerJoinMarks (symbols ["(", "+", ")"]) then return .phrase (dotted parts ++ " (+)")
      if ← isNext "(" then return .call (← call d g interval parts) else return .path parts
    | some (.string form text) =>
      if first.text.toList.head? = some '_' && (isPlain form || form = .hex) then
        skip 1
        return .phrase (first.text ++ " " ++ form.render text)
      return .ident first
    | _ => return .ident first
  | _ => refuse

def collated (e : Expr) : Reader Expr := do
  if ← word "COLLATE" then return .phrase (e.render ++ " COLLATE " ++ dotted (← path d false))
  return e

/-- The construct at the next word, or else the name. A construct that fails may be a name, which has
no collation behind it. -/
def constructOr (reserved : Bool) (first : Reader (Option Expr)) (second : Reader Expr) :
    Reader Expr := fun s =>
  match first s with
  | .ok (some e, rest) => collated d e rest
  | .ok (none, _) => (second >>= collated d) s
  | .error f => if reserved then .error f else match second s with
    | .ok r => .ok r
    | .error _ => .error f

def parenExpr : Reader Expr := do
  needSymbol "("
  let e ← if ← subqueryAhead then pure (.subquery (← g.query))
    else match ← exprs d g with
      | [e] => pure (.nested e)
      | es => pure (.phrase (inParens (renderedList es)))
  needSymbol ")"
  if ← symbol "." then
    match ← next with
    | .word n => return .phrase (e.render ++ "." ++ n.render)
    | _ => refuse
  return e

def typedText (interval : Reader Expr) : Reader Expr := do
  let t ← type d
  if t.own then refuse
  if t.text = "INTERVAL" then interval
  else return .phrase (t.text ++ " " ++ marked '\'' (← literalText d))

def wordlessOperand (interval : Reader Expr) : Reader Expr := do
  match ← peek with
  | some (.symbol "[") => arrayItems d g false
  | some (.symbol "-") => skip 1; return .signed .minus (← g.subexpr (level d .times))
  | some (.symbol "+") => skip 1; return .signed .plus (← g.subexpr (level d .times))
  | some (.symbol "(") => parenExpr d g
  | some (.symbol "\x7b") => bracedExpr d g interval
  | some (.symbol text) =>
    if d = .postgres && text ∈ ["!!", "|/", "||/", "@", "~"] then
      skip 1
      return .signed (.other text) (← g.subexpr (level d .plus))
    return .value (← value)
  | some (.string form _) =>
    if form = .escaped && !d.escapedStrings then refuse
    return .value (← value)
  | _ => return .value (← value)

def intervalOf (operand : Reader Expr) : Reader Expr := do
  let amount ← if d.intervalNeedsUnit then g.expr else operand
  return .phrase ("INTERVAL " ++ amount.render ++ (← intervalTail d))

/-- An operand; intervals nest at most as often as there are lexemes. -/
def operandWithin : Nat → Reader Expr
  | 0 => refuse
  | fuel + 1 => do
    let interval := intervalOf d g (operandWithin fuel)
    match ← attempt (typedText d interval) with
    | some e => return e
    | none =>
      match ← peek with
      | some (.word n) =>
        constructOr d ((constructWords d).contains n.key) (construct d g interval)
          (nameExpr d g interval)
      | _ => collated d (← wordlessOperand d g interval)

def operand : Reader Expr := do operandWithin d g ((← get).length + 1)

def interval : Reader Expr := intervalOf d g (operand d g)

/-- A path into semi-structured data, which starts with a colon or a bracket. -/
def dataPath : Reader String := do
  let parts ← many do
    match ← peek with
    | some (.symbol "[") =>
      skip 1
      let key ← g.expr
      needSymbol "]"
      return some ("[" ++ key.render ++ "]")
    | some (.symbol ":") => skip 1; return some (":" ++ (← key))
    | some (.symbol ".") => skip 1; return some ("." ++ (← key))
    | _ => return none
  return String.join parts
where
  key : Reader String := do
    match ← next with
    | .word ⟨text, none, _⟩ => return text
    | .word ⟨text, some '"', _⟩ => return marked '"' text
    | _ => refuse

/-- What can stand behind a first pair of square brackets where they do not index arrays: more of
them, and points with an expression behind. -/
def accessPath : Reader String := do
  let parts ← many do
    match ← peek with
    | some (.symbol "[") =>
      skip 1
      let key ← g.expr
      needSymbol "]"
      return some ("[" ++ key.render ++ "]")
    | some (.symbol ".") => skip 1; return some ("." ++ (← g.expr).render)
    | _ => return none
  return String.join parts

def subscript (e : Expr) : Reader Expr := do
  let low ← if ← symbol ":" then pure none else some <$> g.expr
  if ← symbol "]" then
    match low with
    | some index => return .element e index
    | none => return .slice e ":"
  if low.isSome then needSymbol ":"
  let start := (low.map (·.render)).getD ""
  if ← symbol "]" then return .slice e (start ++ ":")
  let high := (← g.expr).render
  if ← symbol "]" then return .slice e (start ++ ":" ++ high)
  needSymbol ":"
  if ← symbol "]" then return .slice e (start ++ ":" ++ high)
  let step := (← g.expr).render
  needSymbol "]"
  return .slice e (start ++ ":" ++ high ++ ":" ++ step)

def rightSide (left : Expr) (op : Operator) (level : Nat) : Reader Expr := do
  match ← oneOf ["ANY", "ALL", "SOME"] with
  | none => return .binary op left (← g.subexpr level)
  | some key =>
    if !(← isNext "(") then refuse
    let right ← if (← keyAt 1) ∈ ["SELECT", "WITH"] then g.subexpr level
      else parenthesized (g.subexpr level)
    if !isComparison op then refuse
    return .phrase (left.render ++ " " ++ op.text ++ " " ++ key ++ match right with
      | .subquery q => inParens q.render
      | e => inParens e.render)

def afterIs (e : Expr) : Reader Expr := do
  if ← word "NULL" then return .isNull e false
  if ← words ["NOT", "NULL"] then return .isNull e true
  let negated := negatedText (← word "NOT")
  match ← oneOf ["TRUE", "FALSE", "UNKNOWN"] with
  | some key => return .phrase (e.render ++ " IS " ++ negated ++ key)
  | none =>
    needWords ["DISTINCT", "FROM"]
    return .phrase (e.render ++ " IS " ++ negated ++ "DISTINCT FROM " ++ (← g.expr).render)

def afterIn (e : Expr) (negated : Bool) : Reader Expr := do
  if ← word "UNNEST" then
    let array ← parenthesized g.expr
    return .phrase (e.render ++ " " ++ negatedText negated ++ "IN UNNEST" ++ inParens array.render)
  parenthesized do
    if ← subqueryAhead then return .inQuery e (← g.query) negated
    else if d.emptyInLists then return .inList e (← listBefore d ")" g.expr) negated
    else return .inList e (← exprs d g) negated

def escape? : Reader (Option String) := whenWord "ESCAPE" (literalText d)

def patternText (e : Expr) (negated : Bool) (words : String) (pattern : Expr) (escape : Option String) :
    Expr :=
  .phrase (e.render ++ " " ++ negatedText negated ++ words ++ " " ++ pattern.render ++ match escape with
    | some text => " ESCAPE '" ++ text ++ "'"
    | none => "")

def predicate (e : Expr) : Reader Expr := do
  let negated ← word "NOT"
  let pattern := g.subexpr (level d .like)
  match ← needOneOf ["REGEXP", "RLIKE", "IN", "BETWEEN", "LIKE", "ILIKE", "SIMILAR"] with
  | "REGEXP" =>
    let _ ← word "RLIKE"
    return patternText e negated "REGEXP" (← pattern) none
  | "RLIKE" => return patternText e negated "RLIKE" (← pattern) none
  | "IN" => afterIn d g e negated
  | "BETWEEN" =>
    let low ← g.subexpr (level d .between)
    needWord "AND"
    return .between e low (← g.subexpr (level d .between)) negated
  | "LIKE" =>
    let any ← word "ANY"
    let p ← pattern
    return .like e p negated any (← escape? d)
  | "ILIKE" =>
    let any ← word "ANY"
    let p ← pattern
    return patternText e negated (if any then "ILIKE ANY" else "ILIKE") p (← escape? d)
  | _ =>
    needWord "TO"
    let p ← pattern
    return patternText e negated "SIMILAR TO" p (← escape? d)

def namedOperator : Reader Operator := do
  let part : Reader String := do
    match ← next with
    | .word n => return n.verbatim
    | .symbol text | .operator text => return text
    | .number text long => return (Value.number text long).render
    | _ => refuse
  let text ← parenthesized do
    let first ← part
    let more ← many (do if ← symbol "." then some <$> part else return none)
    return ".".intercalate (first :: more)
  return .other ("OPERATOR" ++ inParens text)

def following (e : Expr) (level : Nat) : Reader Expr := do
  match ← peek with
  | some (.symbol text) =>
    match symbolOperator? d text with
    | some op => skip 1; rightSide g e op level
    | none => match text with
      | "::" => skip 1; return .cast .doubleColon e (← type d).text none
      | "!" => if d.factorials then skip 1; return .signed (.other "!") e else refuse
      | "[" =>
        if d.subscripts then skip 1; subscript g e
        else if d.dataPaths then return .phrase (e.render ++ (← pathText))
        else return .phrase (e.render ++ (← accessPath g))
      | ":" => return .phrase (e.render ++ (← pathText))
      | _ => refuse
  | some (.operator text) => skip 1; rightSide g e (.other text) level
  | some (.word n) => match n.key with
    | "AND" => skip 1; rightSide g e (.known .and) level
    | "OR" => skip 1; rightSide g e (.known .or) level
    | "XOR" => skip 1; rightSide g e (.other "XOR") level
    | "OPERATOR" =>
      skip 1
      if d = .postgres then rightSide g e (← namedOperator) level else refuse
    | "IS" => skip 1; afterIs g e
    | "AT" =>
      needWords ["AT", "TIME", "ZONE"]
      return .phrase (e.render ++ " AT TIME ZONE " ++ (← g.subexpr level).render)
    | _ => predicate d g e
  | _ => refuse
where
  pathText : Reader String := dataPath g

def subexpr (outer : Nat) : Reader Expr := do
  chain (fun e => do
    let inner := followingLevel d (← get)
    if inner ≤ outer then return none
    some <$> following d g e inner) (← operand d g)

end Reader

end QueryBridge.Source
