import QueryBridge.Decimal.Layout
import QueryBridge.Json.Basic

set_option autoImplicit false

/-! An integer of 64 bits, signed or not, is kept as it is; any other number is binary floating point.
Its digits are gathered in a 64-bit significand: once that is full, further digits before the point
count as powers of ten and further digits behind it are dropped. The significand is then rounded,
and scaled by one rounded multiplication or division with a power of ten. -/

namespace QueryBridge.Json

open Decimal

def fullSignificand : Nat := twoTo 64

/-- Digits taken while the significand has room: the significand, the count of digits, the rest. -/
def gather (significand count : Nat) : List Char → Nat × Nat × List Char
  | [] => (significand, count, [])
  | c :: rest =>
    let next := 10 * significand + (c.toNat - 48)
    if c.isDigit && next < fullSignificand then gather next (count + 1) rest
    else (significand, count, c :: rest)

def powerOfTen (n : Nat) : Binary64 := Binary64.ofDecimal false 1 n

/-- Beyond 308 digits of scaling, a quotient is taken in steps; a product has no finite value. -/
def scaleDown (fuel : Nat) (x : Binary64) (digits : Nat) : Binary64 :=
  match fuel with
  | 0 => x
  | fuel + 1 =>
    if digits ≤ 308 then x.div (powerOfTen digits)
    else if x.isZero then x
    else scaleDown fuel (x.div (powerOfTen 308)) (digits - 308)

def scaled? (negative : Bool) (significand : Nat) (scale : Int) : Option Binary64 :=
  let x := Binary64.ofDecimal false significand 0
  let y :=
    if scale < 0 then scaleDown (scale.natAbs / 308 + 1) x scale.natAbs
    else if x.isZero then x
    else if scale ≤ 308 then x.mul (powerOfTen scale.toNat)
    else Binary64.infinity false
  if y.isFinite then some (if negative then y.neg else y) else none

def ofScaled (negative : Bool) (significand : Nat) (scale : Int) : Json :=
  ((scaled? negative significand scale).map .float).getD .unreadable

/-- An integer without point and exponent. A negative zero and what does not fit become floating point. -/
def ofInteger (negative : Bool) (significand : Nat) : Json :=
  if !negative then .int significand
  else if 0 < significand && significand ≤ twoTo 63 then .int (-significand)
  else .float (Binary64.ofDecimal true significand 0)

/-- An exponent that no 32-bit word holds leaves zero or nothing finite. -/
def ofExponent (negative : Bool) (significand : Nat) (scale : Int) (negativeExponent : Bool)
    (digits : List Char) : Json :=
  let e := natOfDigits digits
  if e < twoTo 31 then
    ofScaled negative significand (if negativeExponent then scale - e else scale + e)
  else if significand = 0 || negativeExponent then ofScaled negative 0 0
  else .unreadable

/-- A number read, and the rest of the text unless the text broke off. -/
abbrev Taken := Json × Option (List Char)

def breakOff (fault : JsonFault) : Taken := (.broken fault, none)

def readExponent (negative : Bool) (significand : Nat) (scale : Int) (s : List Char) : Taken :=
  let (negativeExponent, ds) := splitSign s
  let digits := ds.takeWhile Char.isDigit
  if digits.isEmpty then breakOff (if ds.isEmpty then .cutNumber else .malformed)
  else (ofExponent negative significand scale negativeExponent digits, some (ds.dropWhile Char.isDigit))

def isExponentMark (c : Char) : Bool := c == 'e' || c == 'E'

def readFraction (negative : Bool) (significand : Nat) (scale : Int) (s : List Char) : Taken :=
  match s with
  | [] => breakOff .cutNumber
  | c :: _ =>
    if !c.isDigit then breakOff .malformed else
    let (significand, count, rest) := gather significand 0 s
    let scale := scale - count
    match rest.dropWhile Char.isDigit with
    | [] => (ofScaled negative significand scale, some [])
    | c :: rest =>
      if isExponentMark c then readExponent negative significand scale rest
      else (ofScaled negative significand scale, some (c :: rest))

def readUnsigned (negative : Bool) (s : List Char) : Taken :=
  match s with
  | [] => breakOff .cutNumber
  | '0' :: d :: rest =>
    if d.isDigit then breakOff .malformed else readTail 0 0 true (d :: rest)
  | _ =>
    let (significand, count, rest) := gather 0 0 s
    if count = 0 then breakOff .malformed else
    let dropped := rest.takeWhile Char.isDigit
    readTail significand dropped.length dropped.isEmpty (rest.dropWhile Char.isDigit)
where
  readTail (significand : Nat) (scale : Int) (whole : Bool) (rest : List Char) : Taken :=
    let asInteger := if whole then ofInteger negative significand else ofScaled negative significand scale
    match rest with
    | [] => (asInteger, some [])
    | c :: after =>
      if c = '.' then readFraction negative significand scale after
      else if isExponentMark c then readExponent negative significand scale after
      else (asInteger, some (c :: after))

end QueryBridge.Json
