import QueryBridge.Source.Features
import QueryBridge.Source.Scanner

set_option autoImplicit false

namespace QueryBridge.Source

open Text

/-- Symbols behind which more operator characters can follow, longer ones first. -/
def openSymbols : List String :=
  ["->>", "->", "-", "%", "||/", "||", "|/", "|", "<=>", "<=", "<>", "<<", "<@", "<", ">=", ">>",
    ">", "&&", "&", "~~*", "~~", "~*", "~", "#>>", "#>", "#-", "#"]

def closedSymbols (d : Dialect) : List String :=
  (if d.wholeDivision then ["//"] else [])
    ++ ["=>", "==", "=", "!~~*", "!~~", "!~*", "!~", "!!", "!=", "!", "::", ":=", ":", "^@", "^",
      "@>", "@?", "@@", "@", "+", "*", "/"]

def prefixOf? (symbols : List String) (s : List Char) : Option String :=
  symbols.find? fun symbol => symbol.toList.isPrefixOf s

/-- Both spellings of inequality are one symbol. -/
def symbolNamed (text : String) : Lexeme := .symbol (if text = "!=" then "<>" else text)

def readSymbol (d : Dialect) (s : List Char) : Option (Lexeme × List Char) :=
  match prefixOf? (closedSymbols d) s with
  | some symbol => some (symbolNamed symbol, s.drop symbol.length)
  | none => match prefixOf? openSymbols s with
    | some symbol =>
      let rest := s.drop symbol.length
      let more := rest.takeWhile d.extendsOperator
      some (if more.isEmpty then .symbol symbol else .operator (symbol ++ String.ofList more),
        rest.drop more.length)
    | none => none

def readName (d : Dialect) (s : List Char) : Lexeme × List Char :=
  match s with
  | c :: rest =>
    let more := rest.takeWhile d.continuesName
    (.word { text := String.ofList (c :: more) }, rest.drop more.length)
  | [] => (.word { text := "" }, [])

def closingMark (mark : Char) : Char := if mark = '[' then ']' else mark

def readQuotedName (mark : Char) (s : List Char) : Option (Lexeme × List Char) :=
  (readQuoted (closingMark mark) false s).map fun r => (.word (.quoted mark (String.ofList r.1)), r.2)

def isQuote (c : Char) : Bool := c = '\'' || c = '"'

def readPrefixedString (d : Dialect) (letter mark : Char) (rest : List Char) :
    Option (Option (Lexeme × List Char)) :=
  let quoted := mark :: rest
  match letter.toLower with
  | 'b' =>
    if d.byteStrings && isQuote mark then
      some (readString mark d.tripleQuotes false (.bytes mark) (.tripleBytes mark) quoted)
    else none
  | 'r' =>
    if d.rawStrings && isQuote mark then
      some (readString mark d.tripleQuotes false (.raw mark) (.tripleRaw mark) quoted)
    else none
  | 'n' =>
    if mark = '\'' then some (readString mark false true .national .national quoted) else none
  | 'x' => if mark = '\'' then some (readString mark false true .hex .hex quoted) else none
  | 'e' =>
    if mark = '\'' then
      some ((readEscaped (rest.length + 1) rest).map fun r =>
        (.string .escaped (String.ofList r.1), r.2))
    else none
  | 'u' =>
    if d.unicodeStrings && mark = '&' && rest.head? = some '\'' then
      some ((readUnicode (rest.length + 1) rest.tail).map fun r =>
        (.string .unicode (String.ofList r.1), r.2))
    else none
  | _ => none

/-- Blanks and comments at the front of an input, if there are any; a comment may never end. -/
def skipBlank (d : Dialect) (s : List Char) : Option (Option (List Char)) :=
  let line (s : List Char) := some (some (s.dropWhile (· != '\n')))
  match s with
  | '-' :: '-' :: rest => line rest
  | '/' :: '*' :: rest => some (skipComment 1 ' ' rest)
  | '/' :: '/' :: rest => if d.slashComments then line rest else none
  | '#' :: rest => if d.hashComments then line rest else none
  | c :: rest =>
    if c ∈ [' ', '\t', '\n', '\r'] || (isBlank c && !d.startsName c) then some (some rest) else none
  | [] => none

/-- The rest behind a question mark: an operator takes the mark behind it, or loses a character, and
a placeholder takes the digits. -/
def readQuestion (d : Dialect) (s : List Char) : Lexeme × List Char :=
  if d.questionOperators then
    match s with
    | '|' :: rest => (.symbol "?|", rest)
    | '&' :: rest => (.symbol "?&", rest)
    | _ => (.symbol "?", s.drop 1)
  else
    let ds := s.takeWhile isNumeric
    (.placeholder (String.ofList ('?' :: ds)), s.drop ds.length)

def readLexeme (d : Dialect) (s : List Char) : Option (Lexeme × List Char) :=
  match s with
  | [] => none
  | c :: rest =>
    match rest.head?.bind fun mark => readPrefixedString d c mark rest.tail with
    | some found => found
    | none =>
      if c = '\'' then
        readString c d.tripleQuotes d.backslashEscapes (.plain c) (.triple c) s
      else if c ∈ d.nameQuotes then readQuotedName c rest
      else if c = '"' then
        readString c d.tripleQuotes d.backslashEscapes (.plain c) (.triple c) s
      else if c.isDigit || c = '.' then some (readNumber s)
      else if c = '?' then some (readQuestion d rest)
      else if d.startsName c then some (readName d s)
      else if c = '$' then readDollar (fun c => isAlphanumeric c || c = '_') rest
      else match readSymbol d s with
        | some found => some found
        | none => some (.symbol (String.ofList [c]), rest)

def Position.moved (p : Position) (s rest : List Char) : Position :=
  (s.take (s.length - rest.length)).foldl Position.past p

/-- The lexemes of an input that stands at a position; each step has to take something off it. -/
def lexFrom (d : Dialect) (p : Position) (spaced : Bool) (s : List Char) : Option (List Placed) :=
  match s with
  | [] => some []
  | c :: more =>
    match skipBlank d (c :: more) with
    | some none => none
    | some (some rest) =>
      if _shorter : rest.length < (c :: more).length then
        lexFrom d (p.moved (c :: more) rest) true rest
      else none
    | none => do
      let (lexeme, rest) ← readLexeme d (c :: more)
      let stop := p.moved (c :: more) rest
      if _shorter : rest.length < (c :: more).length then
        return ⟨lexeme.locate ⟨p, stop⟩, spaced⟩ :: (← lexFrom d stop false rest)
      else none
termination_by s.length
decreasing_by all_goals assumption

def lex? (d : Dialect) (text : String) : Option (List Placed) := lexFrom d ⟨1, 1⟩ false text.toList

end QueryBridge.Source
