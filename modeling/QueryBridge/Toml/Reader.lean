import QueryBridge.Toml.Quoted

set_option autoImplicit false

namespace QueryBridge.Toml

def isBareKeyChar (c : Char) : Bool := c.isAlphanum || c == '_' || c == '-'

def readSimpleKey (s : List Char) : Option (String × List Char) :=
  match s with
  | [] => none
  | c :: rest =>
    if c = '"' || c = '\'' then readLineString c rest
    else
      let word := s.takeWhile isBareKeyChar
      if word.isEmpty then none else some (String.ofList word, s.dropWhile isBareKeyChar)

def readKey (fuel : Nat) (s : List Char) : Option ((List String) × List Char) :=
  match fuel with
  | 0 => none
  | fuel + 1 => do
    let (first, rest) ← readSimpleKey (skipBlanks s)
    match skipBlanks rest with
    | '.' :: rest => (readKey fuel rest).map fun r => (first :: r.1, r.2)
    | rest => some ([first], rest)

def splitKey? (keys : List String) : Option (List String × String) :=
  keys.getLast?.map fun last => (keys.dropLast, last)

def endsWord (c : Char) : Bool :=
  isBlankChar c || c == '\n' || c == '\r' || c == ',' || c == ']' || c == '}' || c == '#' || c == '='

/-- A word of an unquoted value. A time may follow its date after a blank. -/
def takeWord (s : List Char) : List Char × List Char :=
  let word := s.takeWhile (!endsWord ·)
  let rest := s.dropWhile (!endsWord ·)
  match rest with
  | ' ' :: c :: _ =>
    if isDate word && c.isDigit then
      let time := rest.tail.takeWhile (!endsWord ·)
      (word ++ ' ' :: time, rest.tail.dropWhile (!endsWord ·))
    else (word, rest)
  | _ => (word, rest)

def readWord (s : List Char) : Option (Toml × List Char) :=
  let (word, rest) := takeWord s
  if word = ['t', 'r', 'u', 'e'] then some (.bool true, rest)
  else if word = ['f', 'a', 'l', 's', 'e'] then some (.bool false, rest)
  else if isInteger word || isFloat word then some (.number, rest)
  else if isDateTime word then some (.date, rest)
  else none

mutual

def readValue (fuel : Nat) (s : List Char) : Option (Toml × List Char) :=
  match fuel with
  | 0 => none
  | fuel + 1 =>
    match s with
    | [] => none
    | c :: rest =>
      if c = '"' || c = '\'' then (readString c rest).map fun r => (.string r.1, r.2)
      else if c = '[' then (readItems fuel rest).map fun r => (.array r.1, r.2)
      else if c = '{' then
        match skipBlanks rest with
        | '}' :: rest => some (.inlineTable [], rest)
        | rest => (readInline fuel [] rest).map fun r => (.inlineTable r.1, r.2)
      else readWord s

/-- Items up to the closing bracket; a comma may follow the last one. -/
def readItems (fuel : Nat) (s : List Char) : Option ((List Toml) × List Char) :=
  match fuel with
  | 0 => none
  | fuel + 1 => do
    let rest ← skipLines (s.length + 1) s
    match rest with
    | ']' :: rest => some ([], rest)
    | rest => do
      let (item, rest) ← readValue fuel rest
      let rest ← skipLines (rest.length + 1) rest
      match rest with
      | ']' :: rest => some ([item], rest)
      | ',' :: rest => (readItems fuel rest).map fun r => (item :: r.1, r.2)
      | _ => none

def readInline (fuel : Nat) (entries : Entries) (s : List Char) : Option (Entries × List Char) :=
  match fuel with
  | 0 => none
  | fuel + 1 => do
    let (keys, value, rest) ← readEntry fuel s
    let (path, key) ← splitKey? keys
    let entries ← addDotted path key value entries
    match skipBlanks rest with
    | '}' :: rest => some (entries, rest)
    | ',' :: rest => readInline fuel entries rest
    | _ => none

def readEntry (fuel : Nat) (s : List Char) : Option (List String × Toml × List Char) :=
  match fuel with
  | 0 => none
  | fuel + 1 => do
    let (keys, rest) ← readKey (s.length + 1) s
    match rest with
    | '=' :: rest => (readValue fuel (skipBlanks rest)).map fun r => (keys, r)
    | _ => none

end

structure Draft where
  entries : Entries
  path : List String

def Draft.turn? (d : Draft) (f : String → Entries → Option Entries) (keys : List String) : Option Draft := do
  let (path, key) ← splitKey? keys
  some ⟨← within path (f key) d.entries, keys⟩

def readHeader (d : Draft) (s : List Char) : Option (Draft × List Char) :=
  match s with
  | '[' :: rest => do
    match ← readKey (rest.length + 1) rest with
    | (keys, ']' :: ']' :: rest) => some (← d.turn? appendTable keys, rest)
    | _ => none
  | _ => do
    match ← readKey (s.length + 1) s with
    | (keys, ']' :: rest) => some (← d.turn? openTable keys, rest)
    | _ => none

def readLine (d : Draft) (s : List Char) : Option (Draft × List Char) :=
  match s with
  | '[' :: rest => readHeader d rest
  | _ => do
    let (keys, value, rest) ← readEntry (2 * s.length + 2) s
    let (path, key) ← splitKey? keys
    some (⟨← within d.path (addDotted path key value) d.entries, d.path⟩, rest)

def readLines (fuel : Nat) (d : Draft) (s : List Char) : Option Entries :=
  match fuel with
  | 0 => none
  | fuel + 1 => do
    let rest ← skipLines (s.length + 1) s
    if rest.isEmpty then some d.entries else
    let (d, rest) ← readLine d rest
    readLines fuel d (← endLine rest)

def byteOrderMark : Char := Char.ofNat 0xFEFF

def parse? (text : String) : Option Entries :=
  let s := text.toList
  let body := if s.head? = some byteOrderMark then s.tail else s
  readLines (body.length + 1) ⟨[], []⟩ body

end QueryBridge.Toml
