import Recipe.Binary64
import Recipe.Decimal.Digits

namespace Recipe.Decimal

structure Numeral where
  negative : Bool
  whole : List Char
  fraction : List Char
  exponent : Int

namespace Numeral

-- the same powers whatever else is imported
local instance natPow : Pow Nat Nat := ⟨Nat.pow⟩

def digits (n : Numeral) : List Char := n.whole ++ n.fraction

def power (n : Numeral) : Int := n.exponent - n.fraction.length

/-- The double nearest to the numeral. A number of `k` digits times `10 ^ p` lies below
`10 ^ (k + p)`, so powers far from zero are decided without being computed. -/
def toBinary64 (n : Numeral) : Binary64 :=
  let m := natOfDigits n.digits
  if m = 0 ∨ n.digits.length + n.power < -330 then .zero n.negative
  else if 400 < n.power then .infinity n.negative
  else if 0 ≤ n.power then .ofRatio n.negative (m * 10 ^ n.power.toNat) 1
  else .ofRatio n.negative m (10 ^ (-n.power).toNat)

end Numeral

def readExponent : List Char → Option Int
  | [] => some 0
  | e :: cs =>
    if e ≠ 'e' ∧ e ≠ 'E' then none
    else
      let (sign, ds) := match cs with
        | '-' :: ds => (-1, ds)
        | '+' :: ds => (1, ds)
        | ds => ((1 : Int), ds)
      if ds ≠ [] ∧ ds.all isDigit then some (sign * natOfDigits ds) else none

def readNumeral (cs : List Char) : Option Numeral :=
  let (negative, cs) := match cs with
    | '-' :: cs => (true, cs)
    | '+' :: cs => (false, cs)
    | cs => (false, cs)
  let whole := cs.takeWhile isDigit
  let (fraction, cs) := match cs.dropWhile isDigit with
    | '.' :: cs => (cs.takeWhile isDigit, cs.dropWhile isDigit)
    | cs => ([], cs)
  if whole ++ fraction = [] then none
  else (readExponent cs).map fun exponent => ⟨negative, whole, fraction, exponent⟩

def readInt64 (base : Nat) (value? : Char → Option Nat) (cs : List Char) : Option Int64 :=
  let (sign, cs) := match cs with
    | '-' :: cs => (-1, cs)
    | '+' :: cs => (1, cs)
    | cs => ((1 : Int), cs)
  if cs = [] then none
  else do
    let n ← cs.foldlM (fun n c => (value? c).map (base * n + ·)) 0
    let i := sign * n
    if Int64.minValue.toInt ≤ i ∧ i ≤ Int64.maxValue.toInt then some (.ofInt i) else none

def decimalValue? (c : Char) : Option Nat := if isDigit c then some (digitValue c) else none

def hexValue? (c : Char) : Option Nat :=
  if isDigit c then some (digitValue c)
  else if 97 ≤ c.toNat ∧ c.toNat ≤ 102 then some (c.toNat - 87)
  else if 65 ≤ c.toNat ∧ c.toNat ≤ 70 then some (c.toNat - 55)
  else none

def octalValue? (c : Char) : Option Nat := (decimalValue? c).filter (· < 8)

end Recipe.Decimal
