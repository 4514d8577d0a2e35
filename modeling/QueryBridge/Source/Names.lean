import QueryBridge.Source.Words

set_option autoImplicit false

namespace QueryBridge.Source.Reader

def name : Reader Ident := do
  match ← next with
  | .word n => return n
  | .string (.plain mark) text => return .quoted mark text
  | _ => refuse

/-- How the list behind a comma can end at once: where trailing commas are allowed. -/
def listEnds (allowed : Bool) (following : Option Lexeme) : Bool :=
  allowed && match following with
    | none => true
    | some (.word n) => columnAliasStops.contains n.key
    | some (.symbol text) => text ∈ [")", ";", "]", "\x7d"]
    | some _ => false

def list {α : Type} (d : Dialect) (r : Reader α) : Reader (List α) :=
  listOf (listEnds d.trailingCommas) r

def listBefore {α : Type} (d : Dialect) (close : String) (r : Reader α) : Reader (List α) := do
  if ← isNext close then return []
  if d.trailingCommas && (← peekAt 0) = some (.symbol ",") && (← peekAt 1) = some (.symbol close) then
    skip 1
    return []
  list d r

/-- One hyphen and what it joins to a name; the flag tells that the joined part is a number. -/
def hyphenPart (part : Ident × Bool) : Reader (Option (Ident × Bool)) := do
  let joined (text : String) := { part.1 with text := part.1.text ++ "-" ++ text }
  match ← get with
  | ⟨.symbol "-", false⟩ :: ⟨.word n, false⟩ :: _ =>
    if n.quote.isSome then refuse
    skip 2
    return some (joined n.text, false)
  | ⟨.symbol "-", false⟩ :: ⟨.number text false, false⟩ :: _ =>
    if !text.toList.all Char.isDigit then refuse
    skip 2
    return some (joined text, true)
  | ⟨.symbol "-", false⟩ :: _ => refuse
  | _ => return none

/-- A part of a table path, which can hold hyphens. Nothing can follow one that ends with a number. -/
def hyphenatedName : Reader Ident := do
  let first ← name
  if first.quote.isSome then return first
  let (whole, numeric) ← chain hyphenPart (first, false)
  if numeric && (← peek).isSome then refuse
  return whole

/-- Points inside a quoted part divide it. -/
def dividePart (n : Ident) : List Ident := (n.text.splitOn ".").map fun text => { n with text }

def hyphenatedPath : Reader (List Ident) := do
  let first ← hyphenatedName
  let more ← many (do if ← symbol "." then some <$> hyphenatedName else return none)
  return first :: more

def plainPath (d : Dialect) : Reader (List Ident) := do
  let first ← name
  let parts ← chain (fun (parts : List Ident) => do
    if ← symbol "." then
      let doubled ← given (d.doubleDots && parts.length = 1) (symbol ".")
      return some ((← name) :: if doubled then { text := "" } :: parts else parts)
    else return none) [first]
  return parts.reverse

def path (d : Dialect) (inFrom : Bool) : Reader (List Ident) := do
  let parts ← if d.hyphenatedPaths && inFrom then hyphenatedPath else plainPath d
  return if d.hyphenatedPaths then parts.flatMap dividePart else parts

/-- An alias without its columns: any word behind AS, else a word that is not a stop. -/
def label? (stops : List String) : Reader (Option Ident) := do
  let marked ← word "AS"
  match ← peek with
  | some (.word n) =>
    if marked || !stops.contains n.key then skip 1; return some n else return none
  | some (.string (.plain mark) text) => skip 1; return some (.quoted mark text)
  | _ => if marked then refuse else return none

def columnAlias? : Reader (Option Ident) := label? columnAliasStops

def nameList (d : Dialect) : Reader (List Ident) := parenthesized (list d name)

def unsigned : Reader String := do
  match ← next with
  | .number text _ =>
    if text.toList.all Char.isDigit && Decimal.natOfDigits text.toList < Decimal.twoTo 64 then
      return toString (Decimal.natOfDigits text.toList)
    else refuse
  | _ => refuse

def quotedText : Reader String := do
  match ← next with
  | .string (.plain '\'') text => return text
  | _ => refuse

/-- A text where only a text can stand; a word that is no keyword counts as one. -/
def literalText (d : Dialect) : Reader String := do
  match ← next with
  | .word n => if isKeyword n.key then refuse else return n.text
  | .string (.plain _) text => return text
  | .string .escaped text => if d.escapedStrings then return text else refuse
  | .string .unicode text => return text
  | _ => refuse

/-- A placeholder whose mark is a symbol: a name or a number follows it. -/
def markedPlaceholder : Reader Value := do
  match ← next, ← next with
  | .symbol mark, .word n => return .placeholder (mark ++ n.text)
  | .symbol mark, .number text false => return .placeholder (mark ++ text)
  | _, _ => refuse

def value : Reader Value := do
  match ← peek with
  | some (.word n) => match n.key, n.quote with
    | "TRUE", _ => skip 1; return .bool true
    | "FALSE", _ => skip 1; return .bool false
    | "NULL", _ => skip 1; return .null
    | _, some mark => if mark ∈ ['"', '\''] then skip 1; return .string (.plain mark) n.text else refuse
    | _, none => refuse
  | some (.number text long) => skip 1; return .number text long
  | some (.string form text) => skip 1; return .string form text
  | some (.placeholder text) => skip 1; return .placeholder text
  | some (.symbol ":") | some (.symbol "@") => markedPlaceholder
  | _ => refuse

def numberValue : Reader Value := do
  match ← value with
  | .number text long => return .number text long
  | .placeholder text => return .placeholder text
  | _ => refuse

def signedNumber : Reader String := do
  let sign ← if ← symbol "+" then pure "+" else if ← symbol "-" then pure "-" else pure ""
  return sign ++ (← numberValue).render

end QueryBridge.Source.Reader
