import QueryBridge.Toml.Basic
import QueryBridge.Toml.Scalar

set_option autoImplicit false

namespace QueryBridge.Toml

open Decimal

def isBlankChar (c : Char) : Bool := c == ' ' || c == '\t'

def skipBlanks (s : List Char) : List Char := s.dropWhile isBlankChar

/-- Controls other than the tab stand nowhere. -/
def isControl (c : Char) : Bool := (c.toNat < 32 && c != '\t') || c.toNat == 127

def newLine? : List Char → Option (List Char)
  | '\n' :: rest => some rest
  | '\r' :: '\n' :: rest => some rest
  | _ => none

def skipComment (s : List Char) : Option (List Char) :=
  match skipBlanks s with
  | '#' :: rest =>
    let after := rest.dropWhile fun c => !isControl c
    if after.isEmpty || (newLine? after).isSome then some after else none
  | rest => some rest

def skipLines (fuel : Nat) (s : List Char) : Option (List Char) :=
  match fuel with
  | 0 => none
  | fuel + 1 => do
    let rest ← skipComment s
    match newLine? rest with
    | some rest => skipLines fuel rest
    | none => some rest

def endLine (s : List Char) : Option (List Char) := do
  let rest ← skipComment s
  if rest.isEmpty then some [] else newLine? rest

def hexNumber? (digits : List Char) : Option Nat :=
  if digits.all isHexDigit then
    some (digits.foldl (fun n c => 16 * n + (if c.isDigit then c.toNat - 48 else c.toLower.toNat - 87)) 0)
  else none

def readNumbered (count : Nat) (s : List Char) : Option (Char × List Char) := do
  let digits := s.take count
  let n ← hexNumber? digits
  if digits.length = count && n.isValidChar then some (Char.ofNat n, s.drop count) else none

def shortEscapes : List (Char × Char) :=
  [('b', '\x08'), ('t', '\t'), ('n', '\n'), ('f', '\x0c'), ('r', '\r'), ('"', '"'), ('\\', '\\')]

def readEscape : List Char → Option (Char × List Char)
  | [] => none
  | c :: rest =>
    if c = 'u' then readNumbered 4 rest
    else if c = 'U' then readNumbered 8 rest
    else (shortEscapes.lookup c).map (·, rest)

def skipSpace (fuel : Nat) (s : List Char) : List Char :=
  match fuel with
  | 0 => s
  | fuel + 1 =>
    match newLine? (skipBlanks s) with
    | some rest => skipSpace fuel rest
    | none => skipBlanks s

/-- A backslash at the end of a line passes over the space up to the next text. -/
def continued? (s : List Char) : Option (List Char) :=
  (newLine? (skipBlanks s)).map fun rest => skipSpace (rest.length + 1) rest

structure Quoting where
  quote : Char
  /-- Escapes count. -/
  escapes : Bool
  /-- Three quotes on each side, and line ends between them. -/
  multiline : Bool

/-- Up to two quotes may stand before the three that close a string of several lines. -/
def closing? (q : Quoting) (s : List Char) : Option (List Char × List Char) :=
  let run := s.takeWhile (· == q.quote)
  if q.multiline then
    if run.length < 3 then none else
    let taken := min run.length 5
    some (run.take (taken - 3), s.drop taken)
  else match s with
    | c :: rest => if c = q.quote then some ([], rest) else none
    | [] => none

def readChars (q : Quoting) (fuel : Nat) (s : List Char) : Option ((List Char) × List Char) :=
  match fuel with
  | 0 => none
  | fuel + 1 =>
    match closing? q s with
    | some closed => some closed
    | none =>
      match s with
      | [] => none
      | c :: rest =>
        if c = '\\' && q.escapes then
          match (if q.multiline then continued? rest else none) with
          | some rest => readChars q fuel rest
          | none => do
            let (d, rest) ← readEscape rest
            let (cs, rest) ← readChars q fuel rest
            some (d :: cs, rest)
        else if isControl c && !(q.multiline && (newLine? s).isSome) then none
        else (readChars q fuel rest).map fun r => (c :: r.1, r.2)

def readLineString (quote : Char) (s : List Char) : Option (String × List Char) :=
  (readChars ⟨quote, quote == '"', false⟩ (s.length + 1) s).map fun r => (String.ofList r.1, r.2)

/-- A string whose opening quotes are read; a line end right behind three quotes does not belong to it. -/
def readString (quote : Char) (s : List Char) : Option (String × List Char) :=
  match s with
  | a :: b :: rest =>
    if a = quote && b = quote then
      let body := (newLine? rest).getD rest
      (readChars ⟨quote, quote == '"', true⟩ (body.length + 1) body).map fun r => (String.ofList r.1, r.2)
    else readLineString quote s
  | _ => readLineString quote s

end QueryBridge.Toml
