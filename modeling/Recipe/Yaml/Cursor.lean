import Recipe.Yaml.Char
import Recipe.Yaml.Error

namespace Recipe.Yaml

/-- What is left of a text, how much was read, and whether the line has had only blanks so far. -/
structure Cursor where
  rest : List Char
  index : Nat
  mark : Mark
  fresh : Bool

abbrev Read := StateT Cursor (Except Error)

namespace Cursor

def ofText (text : String) : Cursor where
  rest := text.toList.takeWhile fun c => c.toNat ≠ 0
  index := 0
  mark := ⟨1, 0⟩
  fresh := true

def next (c : Cursor) : Cursor :=
  match c.rest with
  | [] => c
  | '\r' :: '\n' :: r => ⟨r, c.index + 2, ⟨c.mark.line + 1, 0⟩, true⟩
  | d :: r =>
    if isBreak d then ⟨r, c.index + 1, ⟨c.mark.line + 1, 0⟩, true⟩
    else ⟨r, c.index + 1, ⟨c.mark.line, c.mark.column + 1⟩, c.fresh && isSpace d⟩

def advance (n : Nat) (c : Cursor) : Cursor := n.repeat next c

def skipWhile (p : Char → Bool) (c : Cursor) : Cursor := c.advance (c.rest.takeWhile p).length

def starts (p : Char → Bool) (c : Cursor) : Bool := c.rest.head?.any p

def startsWith (d : Char) (c : Cursor) : Bool := c.starts (· == d)

def second? (c : Cursor) : Option Char := (c.rest.drop 1).head?

def atGap (c : Cursor) : Bool := startsWithGap c.rest

def atBreak (c : Cursor) : Bool := startsWithBreak c.rest

def atEnd (c : Cursor) : Bool := c.rest.isEmpty

def atTriple (d : Char) (c : Cursor) : Bool :=
  c.rest.take 3 == [d, d, d] && startsWithGap (c.rest.drop 3)

def atDocumentMarker (c : Cursor) : Bool := c.atTriple '-' || c.atTriple '.'

end Cursor

namespace Read

def fail (p : Problem) (m : Mark) : Read α := throw ⟨p, m⟩

def mark : Read Mark := return (← get).mark

def skip (n : Nat) : Read Unit := modify (·.advance n)

def takeWhile (p : Char → Bool) : Read (List Char) := fun c =>
  .ok (c.rest.takeWhile p, c.skipWhile p)

def skipWhile (p : Char → Bool) : Read Unit := modify (·.skipWhile p)

/-- The blanks up to something else on the line. A comment is passed with them, and needs one before
it. -/
def spaces (tabs : Bool) : Read (List Char) := do
  let run ← takeWhile fun c => c == ' ' || tabs && c == '\t'
  let c ← get
  if c.startsWith '#' then
    if run = [] then fail .commentSpace c.mark
    skipWhile (!isBreak ·)
  return run

def gapWithin (block : Bool) (indent : Int) : Nat → Read Bool
  | 0 => return false
  | n + 1 => do
    let c ← get
    if block && c.fresh && c.startsWith '\t' && c.mark.column < indent then
      let _ ← spaces true
      let c ← get
      if !c.atBreak then fail .tabIndentation c.mark
      gapWithin block indent n
    else if c.starts isSpace then
      skip 1
      gapWithin block indent n
    else if c.starts isBreak then
      skip 1
      let _ ← gapWithin block indent n
      return true
    else if c.startsWith '#' then
      skipWhile (!isBreak ·)
      gapWithin block indent n
    else return false

def gap (block : Bool) (indent : Int) : Read Bool := do
  gapWithin block indent ((← get).rest.length + 1)

def tablessGapWithin : Nat → Read (Bool × Bool)
  | 0 => return (false, false)
  | n + 1 => do
    let c ← get
    if c.startsWith ' ' then
      skip 1
      return (true, (← tablessGapWithin n).2)
    else if c.starts isBreak then
      skip 1
      let _ ← tablessGapWithin n
      return (true, true)
    else if c.startsWith '#' then
      skipWhile (!isBreak ·)
      tablessGapWithin n
    else return (false, false)

def tablessGap : Read Bool := do
  let (found, ended) ← tablessGapWithin ((← get).rest.length + 1)
  if !found then fail .gap (← mark)
  return ended

end Read

end Recipe.Yaml
