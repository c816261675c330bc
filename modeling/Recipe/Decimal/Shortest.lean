import Recipe.Binary64
import Recipe.Decimal.Digits

/-! The shortest decimal text of a double: the fewest digits that read back as it, and among those the
nearest to it. A `Layout` says how such digits are set out. -/

namespace Recipe.Decimal

-- the same powers whatever else is imported
local instance natPow : Pow Nat Nat := ⟨Nat.pow⟩

inductive Tie | even | up
  deriving DecidableEq

/-- A value and the ends of the reals that round to it, over one denominator. -/
structure Span where
  low : Nat
  value : Nat
  high : Nat
  den : Nat
  closed : Bool

def Span.ofBinary64 (x : Binary64) : Span :=
  let m := x.mantissa
  let below := if x.fractionField = 0 ∧ 1 < x.exponentField then 1 else 2
  let q := x.power - 2
  let scale := 2 ^ q.toNat
  ⟨(4 * m - below) * scale, 4 * m * scale, (4 * m + 2) * scale, 2 ^ (-q).toNat, m % 2 == 0⟩

def inUnits (a den : Nat) (g : Int) : Nat × Nat := (a * 10 ^ (-g).toNat, den * 10 ^ g.toNat)

def Span.holds (s : Span) (d : Nat) (g : Int) : Bool :=
  let (low, den) := inUnits s.low s.den g
  let (high, _) := inUnits s.high s.den g
  if s.closed then low ≤ d * den && d * den ≤ high else low < d * den && d * den < high

def Span.magnitude (s : Span) : Int :=
  let guess := ((s.value.log2 : Int) - s.den.log2) * 30103 / 100000
  let reaches (e : Int) := let (v, den) := inUnits s.value s.den e; den ≤ v
  if reaches (guess + 1) then guess + 1 else if reaches guess then guess else guess - 1

def Span.nearest? (tie : Tie) (s : Span) (g : Int) : Option Nat :=
  let (v, den) := inUnits s.value s.den g
  let d := v / den
  match s.holds d g, s.holds (d + 1) g with
  | false, false => none
  | true, false => some d
  | false, true => some (d + 1)
  | true, true =>
    let r := 2 * (v % den)
    if r < den then some d
    else if den < r then some (d + 1)
    else match tie with
      | .even => some (d + d % 2)
      | .up => some (d + 1)

def Span.shortest (tie : Tie) (s : Span) : Nat × Int :=
  let top := s.magnitude
  let tries := (List.range 17).filterMap fun (k : Nat) =>
    let g := top - k
    (s.nearest? tie g).map (·, g)
  tries.head?.getD (s.value / s.den, 0)

structure Layout where
  tie : Tie
  /-- The exponents of numbers written without one; `none` when all are. -/
  positional : Option (Int × Int)
  whole : String
  nan : String
  infinity : String
  negativeInfinity : String

namespace Layout

def isPositional (l : Layout) (e : Int) : Bool :=
  match l.positional with
  | none => true
  | some (least, greatest) => least ≤ e && e ≤ greatest

def positionalText (l : Layout) (ds : List Char) (e : Int) : List Char :=
  if e < 0 then '0' :: '.' :: List.replicate (-e - 1).toNat '0' ++ ds
  else
    let n := e.toNat + 1
    if ds.length ≤ n then ds ++ List.replicate (n - ds.length) '0' ++ l.whole.toList
    else ds.take n ++ '.' :: ds.drop n

def scientificText (ds : List Char) (e : Int) : List Char :=
  ds.take 1 ++ (if ds.length ≤ 1 then [] else '.' :: ds.drop 1) ++
    'e' :: (if e < 0 then '-' else '+') :: natDigits e.natAbs

def decimalText (l : Layout) (d : Nat) (g : Int) : List Char :=
  let ds := natDigits d
  let e := g + ds.length - 1
  let ds := (ds.take 1) ++ ((ds.drop 1).reverse.dropWhile (· == '0')).reverse
  if l.isPositional e then l.positionalText ds e else scientificText ds e

def text (l : Layout) (x : Binary64) : String :=
  if x.isNaN then l.nan
  else if x.isInfinite then if x.negative then l.negativeInfinity else l.infinity
  else
    let sign := if x.negative then ['-'] else []
    let (d, g) := if x.mantissa = 0 then (0, 0) else (Span.ofBinary64 x).shortest l.tie
    String.ofList (sign ++ l.decimalText d g)

end Layout

end Recipe.Decimal
