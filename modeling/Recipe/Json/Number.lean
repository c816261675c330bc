import Recipe.Json.Token
import Recipe.Json.Error
import Recipe.Decimal.Digits

/-! Numbers in JSON text. A decimal is not rounded once: as many of its digits as fit 64 bits are
rounded to a double, which is then scaled by a power of ten in doubles. So `1.602176634e-19` is read as
`1.6021766340000001e-19`, where the nearest double is `1.602176634e-19`. -/

namespace Recipe.Json

def readDigits (cs : List Char) : Except Error (List Char × List Char) :=
  match cs.takeWhile Decimal.isDigit, cs.dropWhile Decimal.isDigit with
  | [], [] => .error ⟨.endInValue, [], 0⟩
  | [], r => .error ⟨.number, r, 1⟩
  | ds, r => .ok (ds, r)

def appendDigits (bound n : Nat) : List Char → Nat × List Char
  | [] => (n, [])
  | d :: ds =>
    if 10 * n + Decimal.digitValue d < bound then
      appendDigits bound (10 * n + Decimal.digitValue d) ds
    else (n, d :: ds)

/-- `x * 10 ^ e` by the powers of ten that are doubles, or nothing where it becomes infinite. A number too
small for a single division is divided by the largest of them until it is zero. -/
def scale (x : Binary64) (e : Int) : Option Binary64 :=
  if e.natAbs ≤ 308 then
    let y := if 0 ≤ e then x.mul (.tenPow e.natAbs) else x.div (.tenPow e.natAbs)
    if y.isInfinite then none else some y
  else if x.mantissa = 0 then some x
  else if 0 ≤ e then none
  else scale (x.div (.tenPow 308)) (e + 308)
termination_by e.natAbs

def readScaled (negative : Bool) (significand : Nat) (e : Int) (r : List Char) :
    Except Error (Token × List Char) :=
  match scale (.ofRatio negative significand 1) e with
  | some x => .ok (.float x, r)
  | none => .error ⟨.range, r, 0⟩

/-- The rest of a number after the letter of its exponent. An exponent of more than 32 bits is out of
range, or makes the number zero. -/
def readExponent (negative : Bool) (significand : Nat) (e : Int) (cs : List Char) :
    Except Error (Token × List Char) := do
  let (small, cs) := match cs with
    | '-' :: cs => (true, cs)
    | '+' :: cs => (false, cs)
    | cs => (false, cs)
  let (ds, r) ← readDigits cs
  match appendDigits (UInt32.size / 2) 0 ds with
  | (k, []) => readScaled negative significand (if small then e - k else e + k) r
  | (_, _ :: ds) =>
    if significand ≠ 0 ∧ small = false then .error ⟨.range, ds ++ r, 0⟩
    else .ok (.float (.zero negative), r)

def readFraction (negative : Bool) (significand : Nat) (e : Int) (cs : List Char) :
    Except Error (Token × List Char) := do
  let (ds, r) ← readDigits cs
  let (significand, left) := appendDigits UInt64.size significand ds
  -- the digits that do not fit are left out, and do not scale the number
  let e := e - (ds.length - left.length : Nat)
  match r with
  | 'e' :: r | 'E' :: r => readExponent negative significand e r
  | r => readScaled negative significand e r

/-- The rest of a number after the digits of its whole part, of which `left` did not fit. A whole number
that fits is an integer, all else a double that must be finite. Minus zero is a double. -/
def readRest (negative : Bool) (n : Nat) (left : List Char) :
    List Char → Except Error (Token × List Char)
  | '.' :: r => readFraction negative n left.length r
  | 'e' :: r | 'E' :: r => readExponent negative n left.length r
  | r =>
    let i : Int := if negative then -n else n
    if left = [] ∧ ¬(negative = true ∧ n = 0) ∧
        Int64.minValue.toInt ≤ i ∧ i ≤ Int64.maxValue.toInt then
      .ok (.integer (.ofInt i), r)
    else readScaled negative n left.length r

def readUnsigned (negative : Bool) (cs : List Char) : Except Error (Token × List Char) := do
  let (ds, r) ← readDigits cs
  if 1 < ds.length ∧ ds.head? = some '0' then .error ⟨.number, cs.drop 1, 1⟩
  else
    let (n, left) := appendDigits UInt64.size 0 ds
    readRest negative n left r

def readNumber : List Char → Except Error (Token × List Char)
  | '-' :: cs => readUnsigned true cs
  | cs => readUnsigned false cs

end Recipe.Json
