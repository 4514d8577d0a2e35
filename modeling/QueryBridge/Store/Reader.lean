import QueryBridge.Store.Statement
import QueryBridge.Store.Lexeme
import QueryBridge.Text.Case

set_option autoImplicit false

namespace QueryBridge.Store

open Decimal

abbrev Reading := StateT (List Lexeme) (Except StoreError)

def refuse {α : Type} : Reading α := do
  match ← get with
  | [] => throw .incomplete
  | l :: _ => throw (.unexpected l.source)

/-- Words that name nothing unless they are quoted. -/
def reservedWords : List String :=
  ["add", "all", "alter", "and", "as", "autoincrement", "between", "case", "check", "collate", "commit",
    "constraint", "create", "default", "deferrable", "delete", "distinct", "drop", "else", "escape", "exists",
    "foreign", "from", "group", "having", "in", "index", "insert", "into", "is", "isnull", "join", "limit",
    "not", "notnull", "null", "on", "or", "order", "primary", "references", "select", "set", "table", "then",
    "to", "transaction", "union", "unique", "update", "using", "values", "when", "where"]

def isReserved (word : String) : Bool := reservedWords.any (Text.eqIgnoringAsciiCase word ·)

def Lexeme.isWord (l : Lexeme) (word : String) : Bool := l.kind = .word && Text.eqIgnoringAsciiCase l.source word

def acceptIf (wanted : Lexeme → Bool) : Reading Bool := do
  match ← get with
  | [] => return false
  | l :: rest =>
    if wanted l then
      set rest
      return true
    else return false

def acceptWord (word : String) : Reading Bool := acceptIf (·.isWord word)

def acceptSign (sign : String) : Reading Bool := acceptIf (·.isSign sign)

def expectWord (word : String) : Reading Unit := do
  if ← acceptWord word then return () else refuse

def expectSign (sign : String) : Reading Unit := do
  if ← acceptSign sign then return () else refuse

def acceptAs {α : Type} (f : Lexeme → Option α) : Reading (Option α) := do
  match ← get with
  | [] => return none
  | l :: rest =>
    match f l with
    | some x =>
      set rest
      return some x
    | none => return none

def Lexeme.name? (l : Lexeme) : Option String :=
  match l.kind with
  | .word => if isReserved l.source then none else some l.source
  | .quotedName name _ => some name
  | _ => none

def readName : Reading String := do
  match ← acceptAs Lexeme.name? with
  | some name => return name
  | none => refuse

def readSeries {α : Type} (item : Reading α) (fuel : Nat) : Reading (List α) :=
  match fuel with
  | 0 => refuse
  | fuel + 1 => do
    let first ← item
    if ← acceptSign "," then return first :: (← readSeries item fuel) else return [first]

def readList {α : Type} (item : Reading α) : Reading (List α) := do
  readSeries item ((← get).length + 1)

def readPath : Reading TablePath := do
  let first ← readName
  if ← acceptSign "." then return ⟨some first, ← readName⟩ else return ⟨none, first⟩

/-- An integer beyond 64 bits is a float. -/
def numberCell (source : String) : Cell :=
  match readInt64? source with
  | some n => .int (Int64.ofInt n)
  | none => .float ((Binary64.ofText? source).getD ⟨0⟩)

def Lexeme.literal? (l : Lexeme) : Option Cell :=
  match l.kind with
  | .number => some (numberCell l.source)
  | .text value => some (.text value)
  | .bytes value => some (.bytes value)
  | .word => if l.isWord "null" then some .null else none
  | _ => none

def Lexeme.parameter? (l : Lexeme) : Option Nat :=
  match l.kind with
  | .parameter index => some index
  | _ => none

def between (start rest : List Lexeme) : List Lexeme := start.take (start.length - rest.length)

def readTypeParameter : Reading Unit := do
  let _ ← acceptIf fun l => l.isSign "+" || l.isSign "-"
  if ← acceptIf (·.kind = .number) then return () else refuse

def readType : Reading String := do
  let start ← get
  set (start.dropWhile fun l => l.kind = .word && !isReserved l.source)
  if (← get).length < start.length && (← acceptSign "(") then
    readTypeParameter
    if ← acceptSign "," then readTypeParameter
    expectSign ")"
  return sourceText (between start (← get))

def readCall (term : Reading Term) (name : String) : Reading Term := do
  if Text.eqIgnoringAsciiCase name "count" then
    if (← acceptSign "*") || (← get).head?.any (·.isSign ")") then
      expectSign ")"
      return .rowCount
    let operand ← term
    expectSign ")"
    return .valueCount operand
  if ← acceptSign ")" then return .call name []
  let arguments ← readList term
  expectSign ")"
  return .call name arguments

def readNamed (term : Reading Term) (l : Lexeme) (name : String) : Reading Term := do
  if l.kind = .word && (← acceptSign "(") then readCall term name
  else if ← acceptSign "." then return .column (some name) (← readName) false
  else
    match l.kind with
    | .quotedName _ maybeText => return .column none name maybeText
    | _ => return .column none name false

def readCast (term : Reading Term) : Reading Term := do
  expectSign "("
  let operand ← term
  expectWord "as"
  let type ← readType
  expectSign ")"
  return .cast operand type

def readPrimary (term : Reading Term) : Reading Term := do
  if let some value ← acceptAs Lexeme.literal? then return .literal value
  if let some index ← acceptAs Lexeme.parameter? then return .parameter index
  if ← acceptSign "(" then
    let inner ← term
    expectSign ")"
    return inner
  match ← get with
  | l :: rest =>
    if l.isWord "cast" && rest.head?.any (·.isSign "(") then
      set rest
      readCast term
    else
      match l.name? with
      | some name =>
        set rest
        readNamed term l name
      | none => refuse
  | [] => refuse

/-- The least integer is written as the negation of a number beyond the greatest one. -/
def leastMagnitude : String := "9223372036854775808"

def negate : Term → Term
  | .literal (.int n) => .literal (.int (-n))
  | .literal (.float x) => .literal (.float x.neg)
  | t => .negated t

def readSigned (term : Reading Term) (fuel : Nat) : Reading Term :=
  match fuel with
  | 0 => refuse
  | fuel + 1 => do
    if ← acceptSign "-" then
      let least := (← get).head?.any fun l => l.kind = .number && l.source = leastMagnitude
      let operand ← readSigned term fuel
      return if least then .literal (.int Int64.minValue) else negate operand
    else if ← acceptSign "+" then readSigned term fuel
    else readPrimary term

def readChain (operators : List (String × Arithmetic)) (operand : Reading Term) (fuel : Nat) (left : Term) :
    Reading Term :=
  match fuel with
  | 0 => return left
  | fuel + 1 => do
    match ← acceptAs fun l => if l.kind = .sign then operators.lookup l.source else none with
    | some op => readChain operators operand fuel (.arithmetic op left (← operand))
    | none => return left

def readLevel (operators : List (String × Arithmetic)) (operand : Reading Term) : Reading Term := do
  let first ← operand
  readChain operators operand (← get).length first

def readTermWithin (fuel : Nat) : Reading Term :=
  match fuel with
  | 0 => refuse
  | fuel + 1 =>
    let signed : Reading Term := do readSigned (readTermWithin fuel) ((← get).length + 1)
    readLevel [("+", .add), ("-", .subtract)] (readLevel [("*", .multiply)] signed)

def readTerm : Reading Term := do readTermWithin ((← get).length + 1)

def comparisonSigns : List (String × Comparison) :=
  [("=", .equal), ("==", .equal), ("<>", .different), ("!=", .different), ("<", .less), ("<=", .atMost),
    (">", .greater), (">=", .atLeast)]

def readCondition : Reading Condition := do
  let left ← readTerm
  match ← acceptAs fun l => if l.kind = .sign then comparisonSigns.lookup l.source else none with
  | some comparison => return ⟨left, comparison, ← readTerm⟩
  | none => refuse

def readConditions (fuel : Nat) : Reading (List Condition) :=
  match fuel with
  | 0 => refuse
  | fuel + 1 => do
    let first ← readCondition
    if ← acceptWord "and" then return first :: (← readConditions fuel) else return [first]

def Lexeme.label? (l : Lexeme) : Option String :=
  match l.kind with
  | .text value => some value
  | _ => l.name?

def readAlias : Reading (Option String) := do
  if ← acceptWord "as" then
    match ← acceptAs Lexeme.label? with
    | some label => return some label
    | none => refuse
  else acceptAs Lexeme.label?

def readItem : Reading ResultItem := do
  if ← acceptSign "*" then return .everyColumn
  let start ← get
  let value ← readTerm
  let source := sourceText (between start (← get))
  return .term value (← readAlias) source

def readOrderKey : Reading OrderKey := do
  let key ← readTerm
  if ← acceptWord "desc" then return ⟨key, true⟩
  let _ ← acceptWord "asc"
  return ⟨key, false⟩

def readSelect : Reading Select := do
  let items ← readList readItem
  let source ← if ← acceptWord "from" then some <$> readPath else pure none
  let conditions ← if ← acceptWord "where" then do readConditions ((← get).length + 1) else pure []
  let order ←
    if ← acceptWord "order" then do
      expectWord "by"
      readList readOrderKey
    else pure []
  return ⟨items, source, conditions, order⟩

/-- Types that are always shown in capitals. -/
def standardTypes : List String := ["ANY", "BLOB", "INT", "INTEGER", "REAL", "TEXT"]

def declaredType (source : String) : String :=
  (standardTypes.find? (Text.eqIgnoringAsciiCase source ·)).getD source

/-- Whether null is refused; the last word on it is not to allow it. -/
def readConstraints (fuel : Nat) (notNull : Bool) : Reading Bool :=
  match fuel with
  | 0 => return notNull
  | fuel + 1 => do
    if ← acceptWord "not" then
      expectWord "null"
      readConstraints fuel true
    else if ← acceptWord "null" then readConstraints fuel notNull
    else return notNull

def readColumn : Reading ColumnDefinition := do
  let name ← readName
  let type ← readType
  return ⟨name, declaredType type, ← readConstraints ((← get).length + 1) false⟩

def acceptWords (words : List String) : Reading Bool := do
  match words with
  | [] => return true
  | first :: rest =>
    if ← acceptWord first then
      rest.forM expectWord
      return true
    else return false

def readCreate : Reading Statement := do
  expectWord "table"
  let ifMissing ← acceptWords ["if", "not", "exists"]
  let table ← readPath
  if ← acceptWord "as" then
    expectWord "select"
    return .createFrom table ifMissing (← readSelect)
  expectSign "("
  let columns ← readList readColumn
  expectSign ")"
  return .create table ifMissing columns

def readDrop : Reading Statement := do
  expectWord "table"
  let ifPresent ← acceptWords ["if", "exists"]
  return .drop (← readPath) ifPresent

def readValues : Reading (List Term) := do
  expectSign "("
  let values ← readList readTerm
  expectSign ")"
  return values

def readInsert : Reading Statement := do
  expectWord "into"
  let table ← readPath
  expectWord "values"
  return .insert table (← readList readValues)

def readAny : Reading Statement := do
  if ← acceptWord "select" then return .select (← readSelect)
  if ← acceptWord "create" then readCreate
  else if ← acceptWord "drop" then readDrop
  else if ← acceptWord "insert" then readInsert
  else refuse

def readStatement (lexemes : List Lexeme) : Except StoreError Statement := do
  match ← readAny.run lexemes with
  | (statement, []) => return statement
  | (_, l :: _) => throw (.unexpected l.source)

end QueryBridge.Store
