import QueryBridge.Text.Case

set_option autoImplicit false

namespace QueryBridge.Source

open Text

/-- The shape of a quoted text. The marks of single, triple, byte and raw texts can be `'` or `"`. -/
inductive StringForm where
  | plain (mark : Char)
  | triple (mark : Char)
  | bytes (mark : Char)
  | tripleBytes (mark : Char)
  | raw (mark : Char)
  | tripleRaw (mark : Char)
  | national
  | escaped
  | unicode
  | hex
  | dollar (tag : String)
  deriving DecidableEq, Repr

/-- Lines and columns count from one; zero stands for no place at all. -/
structure Position where
  line : Nat := 0
  column : Nat := 0
  deriving DecidableEq, Repr

/-- From a first position to the one behind the last. -/
structure Span where
  start : Position := {}
  stop : Position := {}
  deriving DecidableEq, Repr

/-- A name as written, with the mark that opened its quotes and its place if it was a word. -/
structure Ident where
  text : String
  quote : Option Char := none
  span : Span := {}
  deriving DecidableEq, Repr

inductive Lexeme where
  | word (name : Ident)
  /-- Digits as written; `long` tells of an `L` behind them. -/
  | number (text : String) (long : Bool)
  | string (form : StringForm) (text : String)
  | placeholder (text : String)
  | symbol (text : String)
  /-- An operator that the dialect does not define itself. -/
  | operator (text : String)
  deriving DecidableEq, Repr

structure Placed where
  lexeme : Lexeme
  spaced : Bool
  deriving DecidableEq, Repr

namespace Position

def past (p : Position) (c : Char) : Position :=
  if c = '\n' then ⟨p.line + 1, 1⟩ else ⟨p.line, p.column + 1⟩

end Position

namespace Ident

def quoted (mark : Char) (text : String) : Ident := { text, quote := some mark }

/-- What an unquoted word is compared with keywords by; a quoted word is never one. -/
def key (name : Ident) : String := if name.quote.isSome then "" else upper name.text

end Ident

namespace Lexeme

def key : Lexeme → String
  | word name => name.key
  | _ => ""

def isWord : Lexeme → Bool
  | word _ => true
  | _ => false

def locate (span : Span) : Lexeme → Lexeme
  | word name => word { name with span }
  | lexeme => lexeme

end Lexeme

end QueryBridge.Source
