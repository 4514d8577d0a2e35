import QueryBridge.Source.Changes

set_option autoImplicit false

namespace QueryBridge.Source.Reader

variable (d : Dialect) (g : Deeper)

def unlessExists? : Reader (Option String) :=
  return whenTrue (← words ["IF", "NOT", "EXISTS"]) "IF NOT EXISTS"

def ifExists? : Reader (Option String) := return whenTrue (← words ["IF", "EXISTS"]) "IF EXISTS"

def pathText (inFrom : Bool) : Reader (Option String) := return some (dotted (← path d inFrom))

def settingList : Reader String := do
  let settings ← parenthesized (list d do
    let n ← name
    needSymbol "="
    return n.render ++ " = " ++ (← g.expr).render)
  return inParens (commaJoin settings)

def settings? (key : String) : Reader (Option String) := whenWord key do
  return key ++ " " ++ (← settingList d g)

def options? : Reader (Option String) := whenWord "OPTIONS" do return "OPTIONS" ++ (← settingList d g)

def cluster? : Reader (Option String) := whenWords ["ON", "CLUSTER"] do
  return "ON CLUSTER " ++ (← name).render

def dropMode? : Reader (Option String) := oneOf ["CASCADE", "RESTRICT"]

def sequenceOptions : Reader (List String) := do
  let marked (key mark : String) : Reader (Option String) := whenWord key do
    let head := if ← word mark then key ++ " " ++ mark ++ " " else key ++ " "
    return head ++ (← signedNumber)
  let bound (key : String) : Reader (Option String) := do
    if ← words ["NO", key] then return some ("NO " ++ key)
    else whenWord key do return key ++ " " ++ (← signedNumber)
  let step ← marked "INCREMENT" "BY"
  let low ← bound "MINVALUE"
  let high ← bound "MAXVALUE"
  let start ← marked "START" "WITH"
  let cache ← whenWord "CACHE" do return "CACHE " ++ (← signedNumber)
  let cycle ← if ← words ["NO", "CYCLE"] then pure (some "NO CYCLE")
    else pure (whenTrue (← word "CYCLE") "CYCLE")
  return [step, low, high, start, cache, cycle].filterMap id

def referentialAction : Reader String := do
  if ← words ["SET", "NULL"] then return "SET NULL"
  if ← words ["SET", "DEFAULT"] then return "SET DEFAULT"
  if ← words ["NO", "ACTION"] then return "NO ACTION"
  needOneOf ["RESTRICT", "CASCADE"]

def referentialActions : Reader String := do
  let (deletion, change) ← chain (fun (found : Option String × Option String) => do
    if ← given found.1.isNone (words ["ON", "DELETE"]) then
      return some (some ("ON DELETE " ++ (← referentialAction)), found.2)
    if ← given found.2.isNone (words ["ON", "UPDATE"]) then
      return some (found.1, some ("ON UPDATE " ++ (← referentialAction)))
    return none) (none, none)
  return behindBlank deletion ++ behindBlank change

structure Enforcement where
  deferrable : Option String := none
  initially : Option String := none
  enforced : Option String := none

def enforcement : Reader String := do
  let found ← chain (fun (e : Enforcement) => do
    if e.deferrable.isNone then
      if ← words ["NOT", "DEFERRABLE"] then return some { e with deferrable := some "NOT DEFERRABLE" }
      if ← word "DEFERRABLE" then return some { e with deferrable := some "DEFERRABLE" }
    if ← given e.initially.isNone (word "INITIALLY") then
      let time ← needOneOf ["DEFERRED", "IMMEDIATE"]
      return some { e with initially := some ("INITIALLY " ++ time) }
    if e.enforced.isNone then
      if ← words ["NOT", "ENFORCED"] then return some { e with enforced := some "NOT ENFORCED" }
      if ← word "ENFORCED" then return some { e with enforced := some "ENFORCED" }
    return none) {}
  return behindBlank found.deferrable ++ behindBlank found.initially ++ behindBlank found.enforced

def checkText : Reader String := return "CHECK " ++ inParens (← parenthesized g.expr).render

/-- A value that counts up, behind GENERATED. Words that fit no way count for nothing. -/
def generated? : Reader (Option String) := do
  let identity (time : String) : Reader String := do
    let options ← if ← isNext "(" then parenthesized sequenceOptions else pure []
    return "GENERATED " ++ time ++ " AS IDENTITY"
      ++ if options.isEmpty then "" else " (" ++ eachBehindBlank options ++ " )"
  if ← words ["ALWAYS", "AS", "IDENTITY"] then return some (← identity "ALWAYS")
  if ← words ["BY", "DEFAULT", "AS", "IDENTITY"] then return some (← identity "BY DEFAULT")
  if !(← words ["ALWAYS", "AS"]) then return none
  if !(← isNext "(") then return none
  let e ← parenthesized g.expr
  let stored ← word "STORED"
  if d = .postgres && !stored then refuse
  let kept ← if stored then pure (some "STORED") else oneOf ["VIRTUAL"]
  return some ("GENERATED ALWAYS AS " ++ inParens e.render ++ behindBlank kept)

def computed : Reader String := do
  let e ← parenthesized g.expr
  return "AS " ++ inParens e.render ++ behindBlank (← oneOf ["STORED", "VIRTUAL"])

def counting : Reader String := do
  let order : Reader String := return behindBlank (← oneOf ["ORDER", "NOORDER"])
  if ← symbol "(" then
    let seed ← signedNumber
    needSymbol ","
    let step ← signedNumber
    needSymbol ")"
    return inParens (seed ++ ", " ++ step) ++ (← order)
  if ← word "START" then
    let seed ← signedNumber
    needWord "INCREMENT"
    let step ← signedNumber
    return " START " ++ seed ++ " INCREMENT " ++ step ++ (← order)
  order

def tagList : Reader String := do
  let tags ← parenthesized (list d do
    let n ← name
    needSymbol "="
    return n.render ++ "=" ++ marked '\'' (← literalText d))
  return inParens (commaJoin tags)

def governed? : Reader (Option String) := do
  let start ← get
  let lead := if ← word "WITH" then "WITH " else ""
  let policy (kind : String) : Reader (Option String) := do
    let n ← name
    let columns ← whenWord "USING" do return "USING " ++ inParens (identList (← nameList d))
    return some (lead ++ kind ++ " POLICY " ++ n.render ++ behindBlank columns)
  if ← word "IDENTITY" then return some ("IDENTITY" ++ (← counting))
  if ← word "AUTOINCREMENT" then return some ("AUTOINCREMENT" ++ (← counting))
  if ← words ["MASKING", "POLICY"] then return ← policy "MASKING"
  if ← words ["PROJECTION", "POLICY"] then return ← policy "PROJECTION"
  if ← word "TAG" then return some (lead ++ "TAG " ++ (← tagList d))
  set start
  return none

/-- Options that only some dialects know. The others pass over the words in front of them. -/
def dialectOption? : Reader (Option String) := do
  let _ ← word "AUTO_INCREMENT"
  if ← given (← word "AUTOINCREMENT") (pure (d = .sqlite)) then return some "AUTOINCREMENT"
  if ← given (← word "ASC") (pure (d = .sqlite)) then return some "ASC"
  if ← given (← word "DESC") (pure (d = .sqlite)) then return some "DESC"
  let _ ← words ["ON", "UPDATE"]
  if ← word "GENERATED" then return ← generated? d g
  if d = .bigquery && (← keyAt 0) = "OPTIONS" then return ← options? d g
  if ← given (← word "AS") (pure (d = .sqlite || d = .duckdb)) then return some (← computed g)
  let _ ← word "IDENTITY"
  if ← given (d = .sqlite) (words ["ON", "CONFLICT"]) then
    return some ("ON CONFLICT " ++ (← needOneOf ["ROLLBACK", "ABORT", "FAIL", "IGNORE", "REPLACE"]))
  return none

def columnOption? : Reader (Option String) := do
  if d = .snowflake then
    match ← governed? d with
    | some text => return some text
    | none => pure ()
  if ← words ["CHARACTER", "SET"] then return some ("CHARACTER SET " ++ dotted (← path d false))
  if ← words ["NOT", "NULL"] then return some "NOT NULL"
  if ← word "COMMENT" then return some ("COMMENT " ++ marked '\'' (← quotedText))
  if ← word "NULL" then return some "NULL"
  if ← word "DEFAULT" then return some ("DEFAULT " ++ (← g.expr).render)
  if ← words ["PRIMARY", "KEY"] then return some ("PRIMARY KEY" ++ (← enforcement))
  if ← word "UNIQUE" then return some ("UNIQUE" ++ (← enforcement))
  if ← word "REFERENCES" then
    let target ← path d false
    let columns ← columns? d
    let actions ← referentialActions
    return some ("REFERENCES " ++ dotted target ++ behindBlank columns ++ actions ++ (← enforcement))
  if ← word "CHECK" then return some (← checkText g)
  dialectOption? d g

def namedOption? : Reader (Option String) := do
  match ← whenWord "CONSTRAINT" name with
  | none => columnOption? d g
  | some n =>
    match ← columnOption? d g with
    | some text => return some ("CONSTRAINT " ++ n.render ++ " " ++ text)
    | none => refuse

def untyped : Reader Bool := do
  if d ≠ .sqlite then return false
  match ← peek with
  | some (.word n) => return n.key ∈ ["CONSTRAINT", "PRIMARY", "NOT", "UNIQUE", "CHECK", "DEFAULT",
      "COLLATE", "REFERENCES", "GENERATED", "AS"]
  | _ => return true

def columnText : Reader String := do
  let n ← name
  let typed ← if ← untyped d then pure none else some <$> (return (← type d).text)
  let collation : Reader (Option String) := whenWord "COLLATE" do return dotted (← path d false)
  let first ← collation
  let options ← many do
    match ← namedOption? d g with
    | some text => return some (text, true)
    | none => if d = .snowflake then return (← collation).map (·, false) else return none
  let (texts, collations) := options.partition (·.2)
  let last := (collations.getLast?.map (·.1)).or first
  return spaced ([some n.render, typed, last.map ("COLLATE " ++ ·)] ++ texts.map (some ·.1))

def indexMethod? : Reader (Option String) := whenWord "USING" do
  return "USING " ++ (← needOneOf ["BTREE", "HASH"])

def keyed : Reader String := do
  let index ← if ← isNext "(" then pure none else attempt name
  let method ← indexMethod?
  let columns ← nameList d
  let options ← many do
    match ← indexMethod? with
    | some text => return some text
    | none => whenWord "COMMENT" do return "COMMENT '" ++ (← literalText d) ++ "'"
  return behindBlank (index.map (·.render)) ++ behindBlank method ++ " " ++ inParens (identList columns)
    ++ eachBehindBlank options

def tableConstraint? : Reader (Option String) := do
  let label ← whenWord "CONSTRAINT" do return "CONSTRAINT " ++ (← name).render
  let found ← match ← keyAt 0 with
    | "PRIMARY" =>
      needWords ["PRIMARY", "KEY"]
      let columns ← keyed d
      pure (some ("PRIMARY KEY" ++ columns ++ (← enforcement)))
    | "UNIQUE" =>
      skip 1
      if (← keyAt 0) ∈ ["KEY", "INDEX"] then refuse
      let nulls ← if ← words ["NULLS", "DISTINCT"] then pure " NULLS DISTINCT"
        else if ← words ["NULLS", "NOT", "DISTINCT"] then pure " NULLS NOT DISTINCT" else pure ""
      let columns ← keyed d
      pure (some ("UNIQUE" ++ nulls ++ columns ++ (← enforcement)))
    | "FOREIGN" =>
      needWords ["FOREIGN", "KEY"]
      let own ← nameList d
      needWord "REFERENCES"
      let target ← path d false
      let others ← nameList d
      let actions ← referentialActions
      pure (some ("FOREIGN KEY " ++ inParens (identList own) ++ " REFERENCES " ++ dotted target
        ++ inParens (identList others) ++ actions ++ (← enforcement)))
    | "CHECK" => skip 1; some <$> checkText g
    | _ => pure none
  match found with
  | some text => return some (spaced [label, some text])
  | none => if label.isSome then refuse else return none

def tableParts : Reader (List String × List String) := do
  if ← symbols ["(", ")"] then return ([], [])
  if !(← isNext "(") then return ([], [])
  let ends (following : Option Lexeme) := d.trailingCommas && following = some (.symbol ")")
  let parts ← parenthesized (listOf ends do
    match ← tableConstraint? d g with
    | some text => return (true, text)
    | none => if (← peek).any (·.isWord) then return (false, ← columnText d g) else refuse)
  let (constraints, columns) := parts.partition (·.1)
  return (columns.map (·.2), constraints.map (·.2))

def partsText (parts : List String × List String) : Option String :=
  let all := parts.1 ++ parts.2
  if all.isEmpty then none else some (inParens (commaJoin all))

end QueryBridge.Source.Reader
