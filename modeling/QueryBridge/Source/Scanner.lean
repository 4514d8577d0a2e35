import QueryBridge.Source.Lexeme

set_option autoImplicit false

namespace QueryBridge.Source

def escapeValue : Char → Char
  | '0' => '\x00'
  | 'a' => '\x07'
  | 'b' => '\x08'
  | 'f' => '\x0c'
  | 'n' => '\n'
  | 'r' => '\r'
  | 't' => '\t'
  | 'Z' => '\x1a'
  | c => c

/-- Reads up to the closing mark, which stands for itself where it is doubled. -/
def readQuoted (mark : Char) (escapes : Bool) : List Char → Option (List Char × List Char)
  | [] => none
  | [c] => if c = mark then some ([], []) else none
  | c :: next :: rest =>
    if c = mark then
      if next = mark then (readQuoted mark escapes rest).map fun r => (mark :: r.1, r.2)
      else some ([], next :: rest)
    else if escapes && c = '\\' then
      (readQuoted mark escapes rest).map fun r => (escapeValue next :: r.1, r.2)
    else (readQuoted mark escapes (next :: rest)).map fun r => (c :: r.1, r.2)

/-- Reads up to three closing marks in a row; `run` counts those just read, `taken` is reversed. -/
def readTripled (mark : Char) (escapes : Bool) (run : Nat) (taken : List Char) :
    List Char → Option (List Char × List Char)
  | [] => none
  | c :: rest =>
    if c = mark then
      if run = 2 then some ((taken.drop 2).reverse, rest)
      else readTripled mark escapes (run + 1) (c :: taken) rest
    else if escapes && c = '\\' then
      match rest with
      | [] => none
      | next :: more => readTripled mark escapes 0 (escapeValue next :: taken) more
    else readTripled mark escapes 0 (c :: taken) rest

def readString (mark : Char) (triples escapes : Bool) (single triple : StringForm)
    (s : List Char) : Option (Lexeme × List Char) :=
  match s with
  | [] => none
  | _ :: rest =>
    if !triples then found single (readQuoted mark escapes rest)
    else match rest with
      | a :: b :: more =>
        if a = mark then
          if b = mark then found triple (readTripled mark escapes 0 [] more)
          else some (.string single "", b :: more)
        else found single (readQuoted mark escapes rest)
      | [a] => if a = mark then some (.string single "", []) else none
      | [] => none
where
  found (form : StringForm) (r : Option (List Char × List Char)) : Option (Lexeme × List Char) :=
    r.map fun r => (.string form (String.ofList r.1), r.2)

def isHexDigit (c : Char) : Bool :=
  c.isDigit || ('a' ≤ c && c ≤ 'f') || ('A' ≤ c && c ≤ 'F')

def hexValue (c : Char) : Nat :=
  if c.isDigit then c.toNat - 48 else if 'a' ≤ c then c.toNat - 87 else c.toNat - 55

def isOctalDigit (c : Char) : Bool := '0' ≤ c && c ≤ '7'

def valueInBase (base : Nat) (ds : List Char) : Nat :=
  ds.foldl (fun n c => base * n + hexValue c) 0

def codePoint? (n : Nat) : Option Char :=
  if (0xd800 ≤ n && n < 0xe000) || 0x110000 ≤ n then none else some (Char.ofNat n)

/-- A code point that is a character other than NUL. -/
def properCodePoint? (n : Nat) : Option Char := if n = 0 then none else codePoint? n

/-- Byte escapes count modulo 256 and reach no further than ASCII. -/
def byteChar? (n : Nat) : Option Char := if n % 256 < 128 then properCodePoint? (n % 256) else none

def takeUpTo (p : Char → Bool) (count : Nat) (s : List Char) : List Char := (s.take count).takeWhile p

def hexCode? (count : Nat) (s : List Char) : Option Nat :=
  let ds := s.take count
  if ds.length = count && ds.all isHexDigit then some (valueInBase 16 ds) else none

/-- A code of a fixed width; a plus sign may take the place of its first digit. -/
def signedHexCode? (count : Nat) (s : List Char) : Option Nat :=
  match s with
  | '+' :: rest => hexCode? (count - 1) rest
  | _ => hexCode? count s

def readCode (count : Nat) (s : List Char) : Option (Char × List Char) := do
  return (← properCodePoint? (← signedHexCode? count s), s.drop count)

def readEscape : List Char → Option (Char × List Char)
  | [] => none
  | 'b' :: rest => some ('\x08', rest)
  | 'f' :: rest => some ('\x0c', rest)
  | 'n' :: rest => some ('\n', rest)
  | 'r' :: rest => some ('\r', rest)
  | 't' :: rest => some ('\t', rest)
  | 'u' :: rest => readCode 4 rest
  | 'U' :: rest => readCode 8 rest
  | 'x' :: rest =>
    let ds := takeUpTo isHexDigit 2 rest
    if ds.isEmpty then some ('x', rest)
    else (byteChar? (valueInBase 16 ds)).map fun c => (c, rest.drop ds.length)
  | c :: rest =>
    if isOctalDigit c then
      let ds := takeUpTo isOctalDigit 2 rest
      (byteChar? (valueInBase 8 (c :: ds))).map fun c => (c, rest.drop ds.length)
    else (properCodePoint? c.toNat).map fun c => (c, rest)

def readEscaped : Nat → List Char → Option (List Char × List Char)
  | 0, _ => none
  | _, [] => none
  | fuel + 1, '\'' :: rest => match rest with
    | '\'' :: more => (readEscaped fuel more).map fun r => ('\'' :: r.1, r.2)
    | _ => some ([], rest)
  | fuel + 1, '\\' :: rest => do
    let (c, more) ← readEscape rest
    let r ← readEscaped fuel more
    return (c :: r.1, r.2)
  | fuel + 1, c :: rest => (readEscaped fuel rest).map fun r => (c :: r.1, r.2)

def readUnicode : Nat → List Char → Option (List Char × List Char)
  | 0, _ => none
  | _, [] => none
  | fuel + 1, '\'' :: rest => match rest with
    | '\'' :: more => (readUnicode fuel more).map fun r => ('\'' :: r.1, r.2)
    | _ => some ([], rest)
  | fuel + 1, '\\' :: rest => do
    let (c, more) ← match rest with
      | '\\' :: more => some ('\\', more)
      | '+' :: more => ((hexCode? 6 more).bind codePoint?).map fun c => (c, more.drop 6)
      | more => ((hexCode? 4 more).bind codePoint?).map fun c => (c, more.drop 4)
    let r ← readUnicode fuel more
    return (c :: r.1, r.2)
  | fuel + 1, c :: rest => (readUnicode fuel rest).map fun r => (c :: r.1, r.2)

def exponentOf (s : List Char) : List Char :=
  match s with
  | e :: rest =>
    if e = 'e' || e = 'E' then
      let sign := rest.take 1 |>.filter fun c => c = '+' || c = '-'
      let ds := (rest.drop sign.length).takeWhile Char.isDigit
      if ds.isEmpty then [] else e :: sign ++ ds
    else []
  | [] => []

def readNumber (s : List Char) : Lexeme × List Char :=
  let whole := s.takeWhile Char.isDigit
  let rest := s.drop whole.length
  if whole = ['0'] && rest.head? = some 'x' then
    let ds := rest.tail.takeWhile isHexDigit
    (.string .hex (String.ofList ds), rest.tail.drop ds.length)
  else
    let point := rest.take 1 |>.filter (· = '.')
    let rest := rest.drop point.length
    let part := rest.takeWhile Char.isDigit
    let rest := rest.drop part.length
    let mantissa := whole ++ point ++ part
    if mantissa = ['.'] then (.symbol ".", rest)
    else
      let exponent := exponentOf rest
      let rest := rest.drop exponent.length
      let text := String.ofList (mantissa ++ exponent)
      match rest with
      | 'L' :: more => (.number text true, more)
      | _ => (.number text false, rest)

/-- Reads to the end of a comment that can hold comments; `last` is the character before. -/
def skipComment (depth : Nat) (last : Char) : List Char → Option (List Char)
  | [] => none
  | c :: rest =>
    if last = '/' && c = '*' then skipComment (depth + 1) c rest
    else if last = '*' && c = '/' then
      if depth ≤ 1 then some rest else skipComment (depth - 1) c rest
    else skipComment depth c rest

/-- Takes the characters of a tag as far as they agree; the first that differs is taken too. -/
def takeTag : List Char → List Char → Option (Bool × List Char × List Char)
  | [], s => some (true, [], s)
  | _ :: _, [] => none
  | t :: tag, c :: rest =>
    if c = t then (takeTag tag rest).map fun r => (r.1, c :: r.2.1, r.2.2)
    else some (false, [c], rest)

/-- Reads to the next tag between dollar signs. Characters that were tried in vain belong to the text
and are not tried again. -/
def readToTag (tag : List Char) : Nat → List Char → Option (List Char × List Char)
  | 0, _ => none
  | _, [] => none
  | fuel + 1, '$' :: rest => do
    let (whole, tried, more) ← takeTag tag rest
    match whole, more with
    | true, '$' :: behind => return ([], behind)
    | _, _ => (readToTag tag fuel more).map fun r => ('$' :: tried ++ r.1, r.2)
  | fuel + 1, c :: rest => (readToTag tag fuel rest).map fun r => (c :: r.1, r.2)

def readDollar (isPart : Char → Bool) (s : List Char) : Option (Lexeme × List Char) :=
  let tag := s.takeWhile isPart
  match s.drop tag.length with
  | '$' :: body => (readToTag tag (body.length + 1) body).map fun r =>
    (.string (.dollar (String.ofList tag)) (String.ofList r.1), r.2)
  | rest => some (.placeholder (String.ofList ('$' :: tag)), rest)

end QueryBridge.Source
