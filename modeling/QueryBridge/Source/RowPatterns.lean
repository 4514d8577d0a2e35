import QueryBridge.Source.Expressions

set_option autoImplicit false

namespace QueryBridge.Source.Reader

def repeatCount : Reader String := do
  match ← next with
  | .number text _ =>
    let n := Decimal.natOfDigits text.toList
    if text.toList.all Char.isDigit && n < Decimal.twoTo 32 then return toString n else refuse
  | _ => refuse

def repeatBounds : Reader String := do
  let low ← if ← isNext "," then pure "" else repeatCount
  let bounds ← if ← symbol "," then
      if low.isEmpty then pure ("," ++ (← repeatCount))
      else if ← isNext "\x7d" then pure (low ++ ",")
      else pure (low ++ "," ++ (← repeatCount))
    else pure low
  needSymbol "\x7d"
  return inBraces bounds

def repetition? : Reader (Option String) := do
  match ← peek with
  | some (.symbol "*") => skip 1; return some "*"
  | some (.symbol "+") => skip 1; return some "+"
  | some (.placeholder "?") => skip 1; return some "?"
  | some (.symbol "\x7b") => skip 1; some <$> repeatBounds
  | _ => return none

def patternAtom (d : Dialect) (inner : Reader String) : Reader String := do
  match ← peek with
  | some (.symbol "^") => skip 1; return "^"
  | some (.placeholder "$") => skip 1; return "$"
  | some (.symbol "\x7b") =>
    if !(← symbols ["\x7b", "-"]) then refuse
    let row ← name
    if !(← symbols ["-", "\x7d"]) then refuse
    return inBraces ("- " ++ row.render ++ " -")
  | some (.symbol "(") =>
    let text ← parenthesized inner
    return "( " ++ text ++ " )"
  | some (.word ⟨"PERMUTE", none, _⟩) =>
    skip 1
    return "PERMUTE" ++ inParens (identList (← nameList d))
  | _ => return (← name).render

/-- Alternatives of sequences; parentheses nest at most as often as there are lexemes. -/
def patternWithin (d : Dialect) : Nat → Reader String
  | 0 => refuse
  | fuel + 1 => do
    let repeated : Reader String := do
      let text ← patternAtom d (patternWithin d fuel)
      return text ++ String.join (← many repetition?)
    let sequence : Reader String := do
      let first ← repeated
      let more ← many do
        if (← isNext ")") || (← isNext "|") then return none else some <$> repeated
      return spaceJoin (first :: more)
    let first ← sequence
    let more ← many (do if ← symbol "|" then some <$> sequence else return none)
    return " | ".intercalate (first :: more)

def rowPattern (d : Dialect) : Reader String := do patternWithin d ((← get).length + 1)

variable (d : Dialect) (g : Deeper)

def rowsPerMatch? : Reader (Option String) := do
  if ← words ["ONE", "ROW", "PER", "MATCH"] then return some "ONE ROW PER MATCH"
  if ← words ["ALL", "ROWS", "PER", "MATCH"] then
    let all := "ALL ROWS PER MATCH"
    if ← words ["SHOW", "EMPTY", "MATCHES"] then return some (all ++ " SHOW EMPTY MATCHES")
    if ← words ["OMIT", "EMPTY", "MATCHES"] then return some (all ++ " OMIT EMPTY MATCHES")
    if ← words ["WITH", "UNMATCHED", "ROWS"] then return some (all ++ " WITH UNMATCHED ROWS")
    return some all
  return none

def afterMatch : Reader String := do
  if ← words ["PAST", "LAST", "ROW"] then return "AFTER MATCH SKIP PAST LAST ROW"
  if ← words ["TO", "NEXT", "ROW"] then return "AFTER MATCH SKIP  TO NEXT ROW"
  if ← words ["TO", "FIRST"] then return "AFTER MATCH SKIP TO FIRST " ++ (← name).render
  if ← words ["TO", "LAST"] then return "AFTER MATCH SKIP TO LAST " ++ (← name).render
  refuse

def rowMatching : Reader String := do
  let measure : Reader String := do
    let e ← g.expr
    let _ ← word "AS"
    return e.render ++ " AS " ++ (← name).render
  let definition : Reader String := do
    let row ← name
    needWord "AS"
    return row.render ++ " AS " ++ (← g.expr).render
  parenthesized do
    let partition ← whenWords ["PARTITION", "BY"] do return "PARTITION BY " ++ (← listText d g)
    let order ← whenWords ["ORDER", "BY"] do return "ORDER BY " ++ (← orderText d g)
    let measures ← whenWord "MEASURES" do return "MEASURES " ++ commaJoin (← list d measure)
    let rows ← rowsPerMatch?
    let skipped ← whenWords ["AFTER", "MATCH", "SKIP"] afterMatch
    needWord "PATTERN"
    let pattern ← parenthesized (rowPattern d)
    needWord "DEFINE"
    let definitions ← list d definition
    return spaceJoin ([partition, order, measures, rows, skipped].filterMap id
      ++ ["PATTERN " ++ inParens pattern, "DEFINE " ++ commaJoin definitions])

end QueryBridge.Source.Reader
