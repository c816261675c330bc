import Recipe.Yaml.Token

/-! How far a text has been cut into tokens. Whether a scalar is a key is known at the colon after it, so
tokens from a candidate for a key on are held back: the tokens of a mapping may have to go before them. -/

namespace Recipe.Yaml

structure Level where
  column : Int
  block : Bool

/-- A token that is a key if a colon follows, and must be one where it is `required`. -/
structure Candidate where
  number : Nat
  index : Nat
  mark : Mark
  required : Bool

structure Layout where
  cursor : Cursor
  tokens : Array Placed := #[]
  certain : Nat := 0
  levels : List Level := []
  candidate : Option Candidate := none
  outer : List (Option Candidate) := []
  keyAllowed : Bool := true
  adjacent : Nat := 0
  /-- A mapping in brackets has begun, so that a colon begins none. It counts as begun until a pair
  without brackets ends. -/
  mappingBegun : Bool := false
  inPair : Bool := false

abbrev Cut := StateT Layout (Except Error)

namespace Layout

def inFlow (l : Layout) : Bool := !l.outer.isEmpty

def indent (l : Layout) : Int := (l.levels.head?.map Level.column).getD (-1)

def inBlock (l : Layout) : Bool := l.levels.head?.any Level.block

def candidates (l : Layout) : List Candidate := (l.candidate :: l.outer).filterMap id

def settle (l : Layout) : Layout :=
  { l with certain := (l.candidates.map Candidate.number).foldl min l.tokens.size }

def enter (l : Layout) (column : Int) : Layout × Bool :=
  let levels :=
    if l.indent ≤ column then
      match l.levels with
      | ⟨_, false⟩ :: levels => levels
      | levels => levels
    else l.levels
  let l := { l with levels := levels }
  if l.indent < column then ({ l with levels := ⟨column, true⟩ :: l.levels }, true) else (l, false)

end Layout

namespace Cut

def fail (p : Problem) (m : Mark) : Cut α := throw ⟨p, m⟩

def read (r : Read α) : Cut α := fun l => (r l.cursor).map fun (a, c) => (a, { l with cursor := c })

def cursor : Cut Cursor := return (← get).cursor

def mark : Cut Mark := return (← get).cursor.mark

def push (t : Token) (m : Mark) : Cut Unit :=
  modify fun l => { l with tokens := l.tokens.push ⟨t, m⟩ }

def insert (n : Nat) (t : Token) (m : Mark) : Cut Unit :=
  modify fun l => { l with tokens := l.tokens.insertIdxIfInBounds n ⟨t, m⟩ }

def allowKey (allowed : Bool) : Cut Unit := modify ({ · with keyAllowed := allowed })

def expire : Cut Unit := do
  let l ← get
  match l.candidate with
  | none => return
  | some k =>
    let m := l.cursor.mark
    if !l.inFlow && (k.mark.line < m.line || k.index + 1024 < l.cursor.index) then
      if k.required then fail .keyColon m
      set { l with candidate := none }

def saveCandidate : Cut Unit :=
  modify fun l =>
    if l.keyAllowed then
      let required := !l.inFlow && l.indent == l.cursor.mark.column && l.inBlock
      { l with candidate := some ⟨l.tokens.size, l.cursor.index, l.cursor.mark, required⟩ }
    else l

def dropCandidate : Cut Unit := do
  let l ← get
  if l.candidate.any Candidate.required then fail .key l.cursor.mark
  set { l with candidate := none }

def enter (column : Nat) (number : Option Nat) (t : Token) (m : Mark) : Cut Unit := do
  let l ← get
  if !l.inFlow then
    let (l, starts) := l.enter column
    set l
    if starts then
      match number with
      | some n => insert n t m
      | none => push t m

def leave (column : Int) : Cut Unit :=
  modify fun l =>
    if l.inFlow then l
    else
      let left := l.levels.takeWhile (column < ·.column)
      let ends := (left.filter Level.block).map fun _ => Placed.mk .blockEnd l.cursor.mark
      { l with levels := l.levels.drop left.length, tokens := l.tokens ++ ends.toArray }

def hold : Cut Unit :=
  modify fun l =>
    if !l.inFlow && l.inBlock then { l with levels := ⟨l.indent + 1, false⟩ :: l.levels } else l

def release : Cut Unit := modify fun l => { l with levels := l.levels.dropWhile (!·.block) }

def gap : Cut Unit := do
  let l ← get
  let ended ← read (Read.gap (!l.levels.isEmpty) l.indent)
  if ended && !l.inFlow then allowKey true

end Cut

end Recipe.Yaml
