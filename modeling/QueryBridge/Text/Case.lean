import QueryBridge.Text.CaseTable
import QueryBridge.Text.Class

set_option autoImplicit false

namespace QueryBridge.Text

def CaseRange.mapped? (r : CaseRange) (n : Nat) : Option Char :=
  if r.first ≤ n ∧ n ≤ r.last ∧ (n - r.first) % r.stride = 0 then
    some (Char.ofNat (n + r.offset).toNat)
  else none

def mapByRanges (ranges : List CaseRange) (c : Char) : Char :=
  (ranges.findSome? (·.mapped? c.toNat)).getD c

def lowerChar (c : Char) : List Char :=
  if isAscii c then [c.toLower]
  else if c = '\u0130' then ['i', '\u0307']
  else [mapByRanges lowerRanges c]

def upperChar (c : Char) : List Char :=
  if isAscii c then [c.toUpper]
  else match upperExpansions.lookup c.toNat with
    | some expansion => expansion.map Char.ofNat
    | none => [mapByRanges upperRanges c]

def isCased (c : Char) : Bool :=
  if isAscii c then c.isAlpha else inRanges casedRanges c

/-- The ASCII characters that case look-up skips are the apostrophe, `^`, the grave accent, `.` and `:`. -/
def isCaseIgnorable (c : Char) : Bool :=
  if isAscii c then c == '\'' || c == '^' || c.toNat == 0x60 || c == '.' || c == ':'
  else inRanges caseIgnorableRanges c

/-- The first character that case look-up does not skip has case. -/
def meetsCased (s : List Char) : Bool :=
  ((s.dropWhile isCaseIgnorable).head?.map isCased).getD false

/-- `before` holds the characters already lowered, nearest first. -/
def lowerFrom (before : List Char) : List Char → List Char
  | [] => []
  | c :: rest =>
    let lowered :=
      if c = 'Σ' then [if meetsCased before && !meetsCased rest then 'ς' else 'σ'] else lowerChar c
    lowered ++ lowerFrom (c :: before) rest

def lowerChars (s : List Char) : List Char := lowerFrom [] s

def upperChars (s : List Char) : List Char := s.flatMap upperChar

def lower (s : String) : String := String.ofList (lowerChars s.toList)

def upper (s : String) : String := String.ofList (upperChars s.toList)

/-- The letters A to Z alone are compared without case. -/
def eqIgnoringAsciiCase (a b : String) : Bool :=
  a.toList.map Char.toLower == b.toList.map Char.toLower

end QueryBridge.Text
