import QueryBridge.Decimal.Layout
import QueryBridge.Text.Quoted

set_option autoImplicit false

namespace QueryBridge.Store

inductive LexemeKind where
  | word
  /-- A name in quotes; one in double quotes may turn out to be a text. -/
  | quotedName (name : String) (maybeText : Bool)
  | text (value : String)
  | bytes (value : List UInt8)
  | number
  /-- A question mark; `index` counts those before it in the statement. -/
  | parameter (index : Nat)
  | sign
  | illegal
  deriving DecidableEq, Repr

structure Lexeme where
  before : String
  source : String
  kind : LexemeKind
  deriving DecidableEq, Repr

def isSpace (c : Char) : Bool := c == ' ' || c == '\t' || c == '\n' || c == '\r' || c == '\x0c'

def isWordStart (c : Char) : Bool := c.isAlpha || c == '_' || c.toNat ≥ 128

def isWordChar (c : Char) : Bool := isWordStart c || c.isDigit || c == '$'

def skipBlockComment : List Char → List Char
  | [] => []
  | '*' :: '/' :: rest => rest
  | _ :: rest => skipBlockComment rest

def skipSpace (fuel : Nat) (s : List Char) : List Char :=
  match fuel with
  | 0 => s
  | fuel + 1 =>
    match s with
    | '-' :: '-' :: rest => skipSpace fuel (rest.dropWhile (· != '\n'))
    | '/' :: '*' :: rest => skipSpace fuel (skipBlockComment rest)
    | c :: rest => if isSpace c then skipSpace fuel rest else s
    | [] => []

def nibble? (c : Char) : Option Nat :=
  if c.isDigit then some (c.toNat - 48)
  else if 'a' ≤ c.toLower && c.toLower ≤ 'f' then some (c.toLower.toNat - 87)
  else none

def bytesOfHex? : List Char → Option (List UInt8)
  | [] => some []
  | [_] => none
  | a :: b :: rest => do
    let high ← nibble? a
    let low ← nibble? b
    let others ← bytesOfHex? rest
    some ((16 * high + low).toUInt8 :: others)

def takeExponent (s : List Char) : List Char :=
  match s with
  | e :: rest =>
    if e != 'e' && e != 'E' then [] else
    match rest with
    | c :: d :: _ =>
      if c.isDigit then e :: rest.takeWhile Char.isDigit
      else if (c == '+' || c == '-') && d.isDigit then e :: c :: rest.tail.takeWhile Char.isDigit
      else []
    | [c] => if c.isDigit then [e, c] else []
    | [] => []
  | [] => []

def takeNumber (s : List Char) : List Char :=
  let whole := s.takeWhile Char.isDigit
  let rest := s.dropWhile Char.isDigit
  let part := match rest with
    | '.' :: digits => '.' :: digits.takeWhile Char.isDigit
    | _ => []
  whole ++ part ++ takeExponent (rest.drop part.length)

def doubleSigns : List (Char × Char) :=
  [('=', '='), ('<', '='), ('<', '>'), ('<', '<'), ('>', '='), ('>', '>'), ('!', '='), ('|', '|')]

def isSign (c : Char) : Bool :=
  c == '(' || c == ')' || c == ',' || c == ';' || c == '.' || c == '*' || c == '+' || c == '-' || c == '/'
    || c == '%' || c == '=' || c == '<' || c == '>' || c == '&' || c == '|' || c == '~'

def takeQuoted (q : Char) (s : List Char) : Option (List Char × Nat) :=
  (Text.unquote q s).map fun r => (r.1, s.length - r.2.length)

def quotedKind (s : List Char) : Option (LexemeKind × Nat) :=
  match s with
  | '\'' :: _ => (takeQuoted '\'' s).map fun r => (.text (String.ofList r.1), r.2)
  | '"' :: _ => (takeQuoted '"' s).map fun r => (.quotedName (String.ofList r.1) true, r.2)
  | '[' :: rest =>
    let name := rest.takeWhile (· != ']')
    if name.length < rest.length then some (.quotedName (String.ofList name) false, name.length + 2) else none
  | c :: _ =>
    if c = Text.graveAccent then (takeQuoted c s).map fun r => (.quotedName (String.ofList r.1) false, r.2)
    else none
  | [] => none

def bytesKind (s : List Char) : LexemeKind × Nat :=
  let digits := s.takeWhile (· != '\'')
  match bytesOfHex? digits with
  | some bytes => if digits.length < s.length then (.bytes bytes, digits.length + 3) else (.illegal, digits.length + 2)
  | none => (.illegal, digits.length + 3)

def firstKind (s : List Char) : LexemeKind × Nat :=
  match s with
  | [] => (.illegal, 0)
  | c :: rest =>
    if (c == 'x' || c == 'X') && rest.head? = some '\'' then bytesKind rest.tail
    else if isWordStart c then (.word, (s.takeWhile isWordChar).length)
    else if c.isDigit || (c == '.' && (rest.head?.map Char.isDigit).getD false) then
      let count := (takeNumber s).length
      -- A number may not run into a word.
      let trailing := (s.drop count).takeWhile isWordChar
      if trailing.isEmpty then (.number, count) else (.illegal, count + trailing.length)
    else if c == '?' then
      if (rest.head?.map Char.isDigit).getD false then (.illegal, 1) else (.parameter 0, 1)
    else if doubleSigns.contains (c, rest.headD ' ') then (.sign, 2)
    else if isSign c then (.sign, 1)
    else (quotedKind s).getD (.illegal, s.length)

def lexemes (fuel : Nat) (s : List Char) : List Lexeme :=
  match fuel with
  | 0 => []
  | fuel + 1 =>
    let body := skipSpace (s.length + 1) s
    if body.isEmpty then [] else
    let (kind, count) := firstKind body
    ⟨String.ofList (s.take (s.length - body.length)), String.ofList (body.take count), kind⟩
      :: lexemes fuel (body.drop count)

def scan (script : String) : List Lexeme := lexemes (script.length + 1) script.toList

def Lexeme.isSign (l : Lexeme) (sign : String) : Bool := l.kind = .sign && l.source = sign

def numberParameters (index : Nat) : List Lexeme → List Lexeme
  | [] => []
  | l :: rest =>
    match l.kind with
    | .parameter _ => { l with kind := .parameter index } :: numberParameters (index + 1) rest
    | _ => l :: numberParameters index rest

def parameterCount (s : List Lexeme) : Nat :=
  (s.filter fun l => match l.kind with
    | .parameter _ => true
    | _ => false).length

def divide : List Lexeme → List (List Lexeme)
  | [] => [[]]
  | l :: rest =>
    if l.isSign ";" then [] :: divide rest
    else
      match divide rest with
      | [] => [[l]]
      | part :: parts => (l :: part) :: parts

/-- The statements of a script that are not empty, each with its parameters counted. -/
def statementsOf (script : String) : List (List Lexeme) :=
  ((divide (scan script)).filter (!·.isEmpty)).map (numberParameters 0)

def sourceText : List Lexeme → String
  | [] => ""
  | first :: rest => first.source ++ String.join (rest.map fun l => l.before ++ l.source)

end QueryBridge.Store
