import QueryBridge.Source.NormalForm

set_option autoImplicit false

namespace QueryBridge.Source

inductive Failure where
  | unexpected
  | tooDeep
  deriving DecidableEq, Repr

abbrev Reader := StateT (List Placed) (Except Failure)

namespace Reader

def refuse {α : Type} : Reader α := throw .unexpected

def peekAt (n : Nat) : Reader (Option Lexeme) := return ((← get)[n]?).map (·.lexeme)

def peek : Reader (Option Lexeme) := peekAt 0

def keyAt (n : Nat) : Reader String := return ((← peekAt n).map (·.key)).getD ""

def nextPlaced : Reader Placed := do
  match ← get with
  | [] => refuse
  | p :: rest => set rest; return p

def next : Reader Lexeme := return (← nextPlaced).lexeme

def skip (n : Nat) : Reader Unit := modify (·.drop n)

/-- Nothing is taken if the reader fails, unless the nesting is too deep. -/
def attempt {α : Type} (r : Reader α) : Reader (Option α) := fun s =>
  match r s with
  | .ok (a, rest) => .ok (some a, rest)
  | .error .unexpected => .ok (none, s)
  | .error .tooDeep => .error .tooDeep

def word (key : String) : Reader Bool := do
  if (← keyAt 0) = key then skip 1; return true else return false

def startsWithWords : List String → List Placed → Bool
  | [], _ => true
  | key :: keys, p :: rest => p.lexeme.key = key && startsWithWords keys rest
  | _ :: _, [] => false

def words (keys : List String) : Reader Bool := do
  if startsWithWords keys (← get) then skip keys.length; return true else return false

def oneOf (keys : List String) : Reader (Option String) := do
  let key ← keyAt 0
  if key ∈ keys then skip 1; return some key else return none

def needWord (key : String) : Reader Unit := do unless ← word key do refuse

def needWords (keys : List String) : Reader Unit := do unless ← words keys do refuse

def needOneOf (keys : List String) : Reader String := do
  match ← oneOf keys with
  | some key => return key
  | none => refuse

def isNext (text : String) : Reader Bool := return (← peek) = some (.symbol text)

def symbol (text : String) : Reader Bool := do
  if ← isNext text then skip 1; return true else return false

def needSymbol (text : String) : Reader Unit := do unless ← symbol text do refuse

def startsWithSymbols : List String → List Placed → Bool
  | [], _ => true
  | text :: texts, p :: rest => p.lexeme = .symbol text && startsWithSymbols texts rest
  | _ :: _, [] => false

def symbols (texts : List String) : Reader Bool := do
  if startsWithSymbols texts (← get) then skip texts.length; return true else return false

def given (condition : Bool) (r : Reader Bool) : Reader Bool := if condition then r else return false

def either (first second : Reader Bool) : Reader Bool := do if ← first then return true else second

def chainWithin {α : Type} (step : α → Reader (Option α)) : Nat → α → Reader α
  | 0, a => return a
  | fuel + 1, a => do
    match ← step a with
    | some b => chainWithin step fuel b
    | none => return a

def chain {α : Type} (step : α → Reader (Option α)) (a : α) : Reader α := do
  chainWithin step ((← get).length + 1) a

def many {α : Type} (r : Reader (Option α)) : Reader (List α) := do
  let found ← chain (fun found => return (← r).map (· :: found)) []
  return found.reverse

def whenWord {α : Type} (key : String) (r : Reader α) : Reader (Option α) := do
  if ← word key then some <$> r else return none

def whenWords {α : Type} (keys : List String) (r : Reader α) : Reader (Option α) := do
  if ← words keys then some <$> r else return none

def comma (ends : Option Lexeme → Bool) : Reader Bool := do
  if ← symbol "," then return !ends (← peek) else return false

/-- One or more, with commas between. A comma behind which the list `ends` is its last part. -/
def listOf {α : Type} (ends : Option Lexeme → Bool) (r : Reader α) : Reader (List α) := do
  let first ← r
  let more ← many (do if ← comma ends then some <$> r else return none)
  return first :: more

def parenthesized {α : Type} (r : Reader α) : Reader α := do
  needSymbol "("
  let a ← r
  needSymbol ")"
  return a

end Reader

end QueryBridge.Source
