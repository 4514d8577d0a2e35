import QueryBridge.Decimal.Binary64

set_option autoImplicit false

namespace QueryBridge.Text

def replacement : Char := Char.ofNat 0xFFFD

/-- How many bytes follow the first one of a character, and the bounds of the second byte. -/
def sequenceShape? (first : Nat) : Option (Nat × Nat × Nat) :=
  if 0xC2 ≤ first && first ≤ 0xDF then some (1, 0x80, 0xBF)
  else if first = 0xE0 then some (2, 0xA0, 0xBF)
  else if first = 0xED then some (2, 0x80, 0x9F)
  else if 0xE1 ≤ first && first ≤ 0xEF then some (2, 0x80, 0xBF)
  else if first = 0xF0 then some (3, 0x90, 0xBF)
  else if 0xF1 ≤ first && first ≤ 0xF3 then some (3, 0x80, 0xBF)
  else if first = 0xF4 then some (3, 0x80, 0x8F)
  else none

def leadBits (first following : Nat) : Nat := first % Decimal.twoTo (6 - following)

/-- Bytes still to come of a character that has begun: its value so far, their number, and the bounds of the next. -/
structure Pending where
  value : Nat
  following : Nat
  low : Nat
  high : Nat

def beginChar (b : Nat) : List Char × Option Pending :=
  if b < 0x80 then ([Char.ofNat b], none)
  else
    match sequenceShape? b with
    | some (following, low, high) => ([], some ⟨leadBits b following, following, low, high⟩)
    | none => ([replacement], none)

def decodeByte (pending : Option Pending) (b : Nat) : List Char × Option Pending :=
  match pending with
  | none => beginChar b
  | some p =>
    if p.low ≤ b && b ≤ p.high then
      let value := 64 * p.value + b % 64
      if p.following ≤ 1 then ([Char.ofNat value], none)
      else ([], some ⟨value, p.following - 1, 0x80, 0xBF⟩)
    else
      let (chars, next) := beginChar b
      (replacement :: chars, next)

def decodeBytes (pending : Option Pending) : List UInt8 → List Char
  | [] => if pending.isSome then [replacement] else []
  | b :: rest =>
    let (chars, next) := decodeByte pending b.toNat
    chars ++ decodeBytes next rest

def ofUtf8 (bytes : List UInt8) : String := String.ofList (decodeBytes none bytes)

end QueryBridge.Text
