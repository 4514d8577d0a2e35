import QueryBridge.Decimal.Binary64

set_option autoImplicit false

/-! The fewest significant digits that read back as the same number, and of those the nearest ones; an
exact tie goes to the even digit. Layouts decide afterwards where the point and the exponent stand. -/

namespace QueryBridge.Decimal

/-- The decimal `digits * 10 ^ scale`; `digits` has no trailing zero unless it is zero. -/
structure Digits where
  digits : Nat
  scale : Int
  deriving DecidableEq

def scaledLe (a : Nat) (p : Int) (b : Nat) : Bool :=
  if p < 0 then a ≤ b * tenTo (-p).toNat else a * tenTo p.toNat ≤ b

/-- The greatest `p` with `10 ^ p * den ≤ num`, for positive `num` and `den`. -/
def floorLog10Quotient (num den : Nat) : Int :=
  let guess := (Binary64.floorLog2Quotient num den * 1233).fdiv 4096
  if scaledLe den (guess + 1) num then guess + 1
  else if scaledLe den guess num then guess else guess - 1

/-- The interval of quotients over `4 * den` that round to a finite positive number. -/
structure Rounding where
  low : Nat
  mid : Nat
  high : Nat
  den : Nat
  closed : Bool

def Binary64.rounding (x : Binary64) : Rounding :=
  let m := x.significand
  let below := if x.fraction = 0 && x.exponentField > 1 then 1 else 2
  let scaleUp := if x.exponent < 0 then 1 else twoTo x.exponent.toNat
  { low := (4 * m - below) * scaleUp, mid := 4 * m * scaleUp, high := (4 * m + 2) * scaleUp
    den := 4 * (if x.exponent < 0 then twoTo (-x.exponent).toNat else 1), closed := m % 2 == 0 }

def Rounding.admits (r : Rounding) (c : Nat) (p : Int) : Bool :=
  let (v, d) := if p < 0 then (c * r.den, tenTo (-p).toNat) else (c * r.den * tenTo p.toNat, 1)
  if r.closed then r.low * d ≤ v && v ≤ r.high * d else r.low * d < v && v < r.high * d

/-- The admissible neighbour of the number on the grid of multiples of `10 ^ p`, the nearer if both are. -/
def Rounding.neighbour? (r : Rounding) (p : Int) : Option Nat :=
  let (num, den) :=
    if p < 0 then (r.mid * tenTo (-p).toNat, r.den) else (r.mid, r.den * tenTo p.toNat)
  let low := num / den
  let twice := 2 * (num % den)
  let lowFits := low != 0 && r.admits low p
  let highFits := r.admits (low + 1) p
  if lowFits && highFits then
    some (if twice < den || (twice == den && low % 2 == 0) then low else low + 1)
  else if lowFits then some low
  else if highFits then some (low + 1)
  else none

/-- Tries grids from coarse to fine, `fuel` of them. -/
def Rounding.search (r : Rounding) : Nat → Int → Digits
  | 0, p => ⟨0, p⟩
  | fuel + 1, p => match r.neighbour? p with
    | some c => ⟨c, p⟩
    | none => r.search fuel (p - 1)

def stripZeros : Nat → Nat → Int → Digits
  | 0, digits, scale => ⟨digits, scale⟩
  | fuel + 1, digits, scale =>
    if digits != 0 && digits % 10 == 0 then stripZeros fuel (digits / 10) (scale + 1) else ⟨digits, scale⟩

/-- The shortest digits of a finite number without its sign; 17 always suffice. -/
def Binary64.shortest (x : Binary64) : Digits :=
  if x.isZero then ⟨0, 0⟩ else
  let r := x.rounding
  let found := r.search 18 (floorLog10Quotient r.mid r.den)
  stripZeros 20 found.digits found.scale

end QueryBridge.Decimal
