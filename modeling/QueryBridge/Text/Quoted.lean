import QueryBridge.Text.Class

set_option autoImplicit false

namespace QueryBridge.Text

def graveAccent : Char := Char.ofNat 0x60

def doubled (q : Char) : List Char → List Char
  | [] => []
  | c :: rest => if c = q then q :: q :: doubled q rest else c :: doubled q rest

def quoteChars (q : Char) (s : List Char) : List Char := q :: doubled q s ++ [q]

def quote (q : Char) (s : String) : String := String.ofList (quoteChars q s.toList)

/-- Reads up to the closing delimiter; the opening one is already gone. -/
def unquoteBody (q : Char) : List Char → Option (List Char × List Char)
  | [] => none
  | [c] => if c = q then some ([], []) else none
  | c :: d :: rest =>
    if c = q then
      if d = q then (unquoteBody q rest).map fun r => (q :: r.1, r.2) else some ([], d :: rest)
    else (unquoteBody q (d :: rest)).map fun r => (c :: r.1, r.2)

/-- The quoted text at the front of an input, and what follows it. -/
def unquote (q : Char) : List Char → Option (List Char × List Char)
  | c :: rest => if c = q then unquoteBody q rest else none
  | [] => none

def hexText (n : Nat) : List Char := Nat.toDigits 16 n

/-- Backslash, quote, NUL, tab and the line ends have short escapes; other unprintable characters are numbered. -/
def escapeChar (c : Char) : List Char :=
  match c with
  | '\\' => ['\\', '\\']
  | '"' => ['\\', '"']
  | '\x00' => ['\\', '0']
  | '\t' => ['\\', 't']
  | '\n' => ['\\', 'n']
  | '\r' => ['\\', 'r']
  | c => if isPrintable c then [c] else ['\\', 'u', '{'] ++ hexText c.toNat ++ ['}']

def escaped (s : String) : String := String.ofList ('"' :: s.toList.flatMap escapeChar ++ ['"'])

end QueryBridge.Text
