/-! The IEEE 754 double format, read and written in exact natural-number arithmetic. A finite number is
`mantissa * 2 ^ power` up to its sign; `ofRatio` rounds a quotient to the nearest such number, a tie to
the even mantissa. Products and quotients are those of finite numbers. -/

namespace Recipe

structure Binary64 where
  bits : UInt64
  deriving DecidableEq

namespace Binary64

-- the same powers whatever else is imported
local instance natPow : Pow Nat Nat := ⟨Nat.pow⟩

def negative (x : Binary64) : Bool := 2 ^ (63 : Nat) ≤ x.bits.toNat

def exponentField (x : Binary64) : Nat := x.bits.toNat / 2 ^ (52 : Nat) % 2 ^ (11 : Nat)

def fractionField (x : Binary64) : Nat := x.bits.toNat % 2 ^ (52 : Nat)

def isNaN (x : Binary64) : Bool := x.exponentField == 2047 && x.fractionField != 0

def isInfinite (x : Binary64) : Bool := x.exponentField == 2047 && x.fractionField == 0

def mantissa (x : Binary64) : Nat :=
  if x.exponentField = 0 then x.fractionField else 2 ^ (52 : Nat) + x.fractionField

def power (x : Binary64) : Int := max x.exponentField 1 - 1075

/-- Equality of the numbers meant: the two zeros are equal, and a NaN equals nothing. -/
def equal (x y : Binary64) : Bool :=
  !x.isNaN && !y.isNaN && (x == y || (x.bits.toNat % 2 ^ (63 : Nat) == 0 && y.bits.toNat % 2 ^ (63 : Nat) == 0))

def ofMagnitude (negative : Bool) (magnitude : Nat) : Binary64 :=
  ⟨UInt64.ofNat ((if negative then 2 ^ (63 : Nat) else 0) + min magnitude (2047 * 2 ^ (52 : Nat)))⟩

def infinity (negative : Bool) : Binary64 := ofMagnitude negative (2047 * 2 ^ (52 : Nat))

def nan : Binary64 := ⟨0x7ff8000000000000⟩

def zero (negative : Bool) : Binary64 := ofMagnitude negative 0

def roundEven (num den : Nat) : Nat :=
  let q := num / den
  let r := num % den
  if 2 * r < den then q else if den < 2 * r then q + 1 else q + q % 2

def roundAt (num den : Nat) (e : Int) : Nat :=
  if 0 ≤ e then roundEven num (den * 2 ^ e.toNat) else roundEven (num * 2 ^ (-e).toNat) den

/-- The double nearest to `num / den`. The trial power leaves 53 or 54 bits before the point. -/
def ofRatio (negative : Bool) (num den : Nat) : Binary64 :=
  if num = 0 then zero negative else
  let trial : Int := max ((num.log2 : Int) - den.log2 - 53) (-1074)
  let wide := if 0 ≤ trial then num / (den * 2 ^ trial.toNat) else num * 2 ^ (-trial).toNat / den
  let e := if 2 ^ (53 : Nat) ≤ wide then trial + 1 else trial
  ofMagnitude negative ((e + 1074).toNat * 2 ^ (52 : Nat) + roundAt num den e)

def ofInt (i : Int) : Binary64 := ofRatio (i < 0) i.natAbs 1

def ofScaled (negative : Bool) (num den : Nat) (e : Int) : Binary64 :=
  ofRatio negative (num * 2 ^ e.toNat) (den * 2 ^ (-e).toNat)

def mul (x y : Binary64) : Binary64 :=
  ofScaled (x.negative != y.negative) (x.mantissa * y.mantissa) 1 (x.power + y.power)

def div (x y : Binary64) : Binary64 :=
  ofScaled (x.negative != y.negative) x.mantissa y.mantissa (x.power - y.power)

def tenPow (k : Nat) : Binary64 := ofRatio false (10 ^ k) 1

end Binary64

end Recipe
