set_option autoImplicit false

namespace QueryBridge.Decimal

def twoTo (n : Nat) : Nat := Nat.pow 2 n

def tenTo (n : Nat) : Nat := Nat.pow 10 n

structure Binary64 where
  bits : UInt64
  deriving DecidableEq

namespace Binary64

def negative (x : Binary64) : Bool := x.bits >>> 63 == 1

def exponentField (x : Binary64) : Nat := ((x.bits >>> 52) &&& 0x7FF).toNat

def fraction (x : Binary64) : Nat := (x.bits &&& 0xFFFFFFFFFFFFF).toNat

def isFinite (x : Binary64) : Bool := x.exponentField != 0x7FF

def isNaN (x : Binary64) : Bool := !x.isFinite && x.fraction != 0

def isZero (x : Binary64) : Bool := x.exponentField == 0 && x.fraction == 0

def significand (x : Binary64) : Nat :=
  if x.exponentField = 0 then x.fraction else x.fraction + twoTo 52

def exponent (x : Binary64) : Int :=
  if x.exponentField = 0 then -1074 else (x.exponentField : Int) - 1075

/-- Numeric equality: the two zeros agree, and a NaN differs from everything. -/
def sameValue (x y : Binary64) : Bool :=
  !x.isNaN && !y.isNaN && (x == y || (x.isZero && y.isZero))

def ofMagnitude (isNegative : Bool) (magnitude : Nat) : Binary64 :=
  ⟨(magnitude + if isNegative then twoTo 63 else 0).toUInt64⟩

def infinityMagnitude : Nat := 0x7FF * twoTo 52

def infinity (isNegative : Bool) : Binary64 := ofMagnitude isNegative infinityMagnitude

def nan : Binary64 := ⟨0x7FF8000000000000⟩

def neg (x : Binary64) : Binary64 := ⟨x.bits ^^^ 0x8000000000000000⟩

/-- The greatest `k` with `2 ^ k * den ≤ num`, for positive `num` and `den`. -/
def floorLog2Quotient (num den : Nat) : Int :=
  let guess : Int := (num.log2 : Int) - den.log2
  let reached := if guess < 0 then den ≤ num * twoTo (-guess).toNat else den * twoTo guess.toNat ≤ num
  if reached then guess else guess - 1

/-- `num / den` to the nearest natural, a tie going to the even one. -/
def divideToEven (num den : Nat) : Nat :=
  let low := num / den
  let twice := 2 * (num % den)
  if twice < den || (twice == den && low % 2 == 0) then low else low + 1

/-- The magnitude bits of the number nearest to `num / den`. -/
def roundQuotient (num den : Nat) : Nat :=
  if num = 0 then 0 else
  let unit := max (floorLog2Quotient num den - 52) (-1074)
  let steps :=
    if unit < 0 then divideToEven (num * twoTo (-unit).toNat) den
    else divideToEven num (den * twoTo unit.toNat)
  min ((unit + 1074).toNat * twoTo 52 + steps) infinityMagnitude

/-- The number nearest to `digits * 10 ^ scale`. Scales beyond every finite number are cut off first. -/
def ofDecimal (isNegative : Bool) (digits : Nat) (scale : Int) : Binary64 :=
  let size : Int := (Nat.toDigits 10 digits).length + scale
  ofMagnitude isNegative <|
    if digits = 0 || size < -330 then 0
    else if size > 310 then infinityMagnitude
    else if scale < 0 then roundQuotient digits (tenTo (-scale).toNat)
    else roundQuotient (digits * tenTo scale.toNat) 1

def ofInt (n : Int) : Binary64 := ofMagnitude (n < 0) (roundQuotient n.natAbs 1)

def quotient (x : Binary64) : Nat × Nat :=
  if x.exponent < 0 then (x.significand, twoTo (-x.exponent).toNat)
  else (x.significand * twoTo x.exponent.toNat, 1)

def signedQuotient (x : Binary64) : Int × Nat :=
  let (num, den) := x.quotient
  (if x.negative then -(num : Int) else num, den)

def add (x y : Binary64) : Binary64 :=
  let (m, k) := x.signedQuotient
  let (n, l) := y.signedQuotient
  let total := m * l + n * k
  ofMagnitude (total < 0 || (total = 0 && x.negative && y.negative)) (roundQuotient total.natAbs (k * l))

def mul (x y : Binary64) : Binary64 :=
  let (m, k) := x.quotient
  let (n, l) := y.quotient
  ofMagnitude (x.negative != y.negative) (roundQuotient (m * n) (k * l))

def div (x y : Binary64) : Binary64 :=
  let (m, k) := x.quotient
  let (n, l) := y.quotient
  ofMagnitude (x.negative != y.negative) (roundQuotient (m * l) (k * n))

end Binary64

end QueryBridge.Decimal
