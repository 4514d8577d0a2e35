import QueryBridge.Decimal.Shortest

set_option autoImplicit false

/-! Writing: shortest digits, positional from `0.00001` up to but not including `1e16`, with a
fractional digit always present; exponents are bare. Reading: digits with an optional point and
exponent, rounded correctly. -/

namespace QueryBridge.Decimal

def zeros (n : Nat) : String := String.ofList (List.replicate n '0')

/-- Writes `d` with at least one digit on both sides of a point, or with an exponent; `plus` precedes one that is not negative. -/
def Digits.renderWith (plus : String) (d : Digits) : String :=
  let text := toString d.digits
  let count := text.length
  let pointAt := (count : Int) + d.scale
  if d.digits = 0 then "0.0"
  else if 0 ≤ d.scale && pointAt ≤ 16 then text ++ zeros d.scale.toNat ++ ".0"
  else if 0 < pointAt && pointAt ≤ 16 then
    let (whole, part) := text.toList.splitAt pointAt.toNat
    String.ofList whole ++ "." ++ String.ofList part
  else if -5 < pointAt && pointAt ≤ 0 then "0." ++ zeros (-pointAt).toNat ++ text
  else
    let lead := match text.toList with
      | first :: [] => String.ofList [first]
      | first :: rest => String.ofList (first :: '.' :: rest)
      | [] => ""
    lead ++ "e" ++ (if pointAt < 1 then "" else plus) ++ toString (pointAt - 1)

def Binary64.renderWith (plus : String) (x : Binary64) : String :=
  if x.isNaN then "NaN"
  else (if x.negative then "-" else "") ++ (if x.isFinite then x.shortest.renderWith plus else "inf")

def Binary64.render (x : Binary64) : String := x.renderWith ""

def natOfDigits (ds : List Char) : Nat := ds.foldl (fun n c => 10 * n + (c.toNat - 48)) 0

def splitSign : List Char → Bool × List Char
  | '-' :: rest => (true, rest)
  | '+' :: rest => (false, rest)
  | s => (false, s)

def readInt? (s : List Char) : Option Int :=
  let (isNegative, ds) := splitSign s
  if ds.isEmpty || !ds.all Char.isDigit then none
  else some (if isNegative then -(natOfDigits ds : Int) else natOfDigits ds)

def inInt64 (n : Int) : Bool := -(twoTo 63 : Int) ≤ n && n < twoTo 63

def readInt64? (s : String) : Option Int := (readInt? s.toList).filter inInt64

/-- Reads `digits[.digits][e[sign]digits]` with an optional sign in front, or the name of a non-finite number. -/
def Binary64.ofText? (s : String) : Option Binary64 :=
  let (isNegative, body) := splitSign s.toList
  match (String.ofList body).toLower with
  | "nan" => some nan
  | "inf" | "infinity" => some (infinity isNegative)
  | _ =>
    let whole := body.takeWhile Char.isDigit
    let rest := body.dropWhile Char.isDigit
    let (part, rest) := match rest with
      | '.' :: r => (r.takeWhile Char.isDigit, r.dropWhile Char.isDigit)
      | r => ([], r)
    if whole.isEmpty && part.isEmpty then none else
    let scale? := match rest with
      | [] => some 0
      | c :: r => if c = 'e' || c = 'E' then readInt? r else none
    scale?.map fun scale => ofDecimal isNegative (natOfDigits (whole ++ part)) (scale - part.length)

end QueryBridge.Decimal
