import Recipe.Yaml.Scalar.Gap

namespace Recipe.Yaml.Block

inductive Chomp | strip | clip | keep
  deriving DecidableEq

def chomp? : Read (Option Chomp) := do
  let c ← get
  if c.startsWith '+' then
    Read.skip 1
    return some .keep
  else if c.startsWith '-' then
    Read.skip 1
    return some .strip
  else return none

def step (start : Mark) : Read Nat := do
  match (← get).rest with
  | d :: _ =>
    if Decimal.isDigit d then
      if d = '0' then Read.fail .blockZero start
      Read.skip 1
      return Decimal.digitValue d
    else return 0
  | [] => return 0

def header (start : Mark) : Read (Chomp × Nat) := do
  match ← chomp? with
  | some k => return (k, ← step start)
  | none =>
    let n ← step start
    if n = 0 then return (.clip, 0) else return ((← chomp?).getD .clip, n)

def emptyLinesWithin (limit : Option Nat) (breaks widest : Nat) : Nat → Read (Nat × Nat)
  | 0 => return (breaks, widest)
  | n + 1 => do
    let c ← get
    let run := (c.rest.takeWhile (· == ' ')).length
    Read.skip (match limit with
      | none => run
      | some l => min run (l - c.mark.column))
    let c ← get
    let widest := max widest c.mark.column
    if c.starts isBreak then
      Read.skip 1
      emptyLinesWithin limit (breaks + 1) widest n
    else return (breaks, widest)

def emptyLines (limit : Option Nat) : Read (Nat × Nat) := do
  emptyLinesWithin limit 0 0 ((← get).rest.length + 1)

/-- The lines from `text` on. A break that was passed is `pending`, with `breaks` empty lines after it;
`blank` tells whether the line before them began with a blank. -/
def linesWithin (literal : Bool) (indent : Nat) (text : List Char) (pending : Bool) (breaks : Nat)
    (blank : Bool) : Nat → Read (List Char × Bool × Nat)
  | 0 => return (text, pending, breaks)
  | n + 1 => do
    let c ← get
    if c.mark.column ≠ indent ∨ c.atEnd ∨ indent = 0 ∧ c.atTriple '.' then
      return (text, pending, breaks)
    let folded := !literal && pending && !blank && !c.starts isSpace
    let join :=
      if folded then if breaks = 0 then [' '] else Gap.lines breaks
      else Gap.lines ((if pending then 1 else 0) + breaks)
    let line ← Read.takeWhile (!isBreak ·)
    let text := text ++ join ++ line
    if (← get).atEnd then return (text, false, 0)
    Read.skip 1
    let (breaks, _) ← emptyLines (some indent)
    linesWithin literal indent text true breaks (c.starts isSpace) n

def read (literal : Bool) (indent : Int) : Read (List Char × Mark) := do
  let start ← Read.mark
  Read.skip 1
  let (chomp, step) ← header start
  let _ ← Read.spaces true
  if !(← get).atBreak then Read.fail .blockHeader start
  Read.skip 1
  if (← get).startsWith '\t' then Read.fail .blockTab start
  let given := (max indent 0).toNat + step
  let (breaks, widest) ← emptyLines (if step = 0 then none else some given)
  let column := if step = 0 then max widest (indent + 1).toNat else given
  let c ← get
  if c.atEnd then
    return (if chomp = .strip ∨ c.mark.line = start.line then []
      else if chomp = .clip then Gap.lines 1 else Gap.lines (max breaks 1), start)
  if c.mark.column < column ∧ indent < c.mark.column then Read.fail .blockIndentation c.mark
  let (text, pending, breaks) ← linesWithin literal column [] false breaks false (c.rest.length + 1)
  let e ← get
  let last := if pending then 1 else 0
  let unended := if e.atEnd ∧ max column 1 ≤ e.mark.column then 1 else 0
  return (match chomp with
    | .strip => text
    | .clip => text ++ Gap.lines (last + unended)
    | .keep => text ++ Gap.lines (last + unended + breaks), c.mark)

end Recipe.Yaml.Block
