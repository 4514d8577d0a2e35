import QueryBridge.Decimal.Layout

set_option autoImplicit false

namespace QueryBridge.Toml

open Decimal

def areDigits (isDigit : Char → Bool) : List Char → Bool
  | [] => false
  | [c] => isDigit c
  | c :: '_' :: rest => isDigit c && areDigits isDigit rest
  | c :: rest => isDigit c && areDigits isDigit rest

def isHexDigit (c : Char) : Bool := c.isDigit || ('a' ≤ c && c ≤ 'f') || ('A' ≤ c && c ≤ 'F')

def isOctalDigit (c : Char) : Bool := '0' ≤ c && c ≤ '7'

def isBinaryDigit (c : Char) : Bool := c == '0' || c == '1'

def unsigned (s : List Char) : List Char := (splitSign s).2

def isWhole (s : List Char) : Bool :=
  areDigits Char.isDigit s && (s.length == 1 || s.head? != some '0')

/-- A decimal integer of at most 128 bits, with or without a sign. -/
def isDecimalInteger (s : List Char) : Bool :=
  let digits := natOfDigits ((unsigned s).filter (· != '_'))
  isWhole (unsigned s) && (if s.head? = some '-' then digits ≤ twoTo 127 else digits < twoTo 128)

def isInteger (s : List Char) : Bool :=
  match s with
  | '0' :: 'x' :: digits => areDigits isHexDigit digits
  | '0' :: 'o' :: digits => areDigits isOctalDigit digits
  | '0' :: 'b' :: digits => areDigits isBinaryDigit digits
  | _ => isDecimalInteger s

def isExponent : List Char → Bool
  | [] => true
  | c :: rest => (c == 'e' || c == 'E') && areDigits Char.isDigit (unsigned rest)

def isMark (c : Char) : Bool := c == 'e' || c == 'E'

def isFloat (s : List Char) : Bool :=
  let body := unsigned s
  if body = ['i', 'n', 'f'] || body = ['n', 'a', 'n'] then true else
  let whole := body.takeWhile fun c => c != '.' && !isMark c
  let rest := body.dropWhile fun c => c != '.' && !isMark c
  isWhole whole && (match rest with
    | '.' :: part =>
      areDigits Char.isDigit (part.takeWhile (!isMark ·)) && isExponent (part.dropWhile (!isMark ·))
    | c :: _ => isMark c && isExponent rest
    | [] => false)

def isPair (bound : Nat) : List Char → Bool
  | [a, b] => a.isDigit && b.isDigit && natOfDigits [a, b] ≤ bound
  | _ => false

def daysIn (year month : Nat) : Nat :=
  if month = 2 then (if year % 4 = 0 && (year % 100 != 0 || year % 400 = 0) then 29 else 28)
  else if month = 4 || month = 6 || month = 9 || month = 11 then 30
  else 31

def isDate : List Char → Bool
  | [a, b, c, d, '-', m, n, '-', x, y] =>
    [a, b, c, d, m, n, x, y].all Char.isDigit &&
    (let month := natOfDigits [m, n]
      let day := natOfDigits [x, y]
      1 ≤ month && month ≤ 12 && 1 ≤ day && day ≤ daysIn (natOfDigits [a, b, c, d]) month)
  | _ => false

def isTime (s : List Char) : Bool :=
  match s with
  | a :: b :: ':' :: c :: d :: ':' :: e :: f :: rest =>
    isPair 23 [a, b] && isPair 59 [c, d] && isPair 60 [e, f] && (match rest with
      | [] => true
      | '.' :: digits => !digits.isEmpty && digits.all Char.isDigit
      | _ => false)
  | _ => false

def isOffset : List Char → Bool
  | [] => true
  | [z] => z == 'Z' || z == 'z'
  | [s, a, b, ':', c, d] => (s == '+' || s == '-') && isPair 23 [a, b] && isPair 59 [c, d]
  | _ => false

def isTimeWithOffset (s : List Char) : Bool :=
  let startsOffset (c : Char) := c == 'Z' || c == 'z' || c == '+' || c == '-'
  isTime (s.takeWhile (!startsOffset ·)) && isOffset (s.dropWhile (!startsOffset ·))

def isDateTime (s : List Char) : Bool :=
  isTime s || isDate s || (isDate (s.take 10) && (match s.drop 10 with
    | t :: time => (t == 'T' || t == 't' || t == ' ') && isTimeWithOffset time
    | [] => false))

end QueryBridge.Toml
