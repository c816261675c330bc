import Recipe.Yaml.Layout
import Recipe.Yaml.Scalar.Block
import Recipe.Yaml.Scalar.Plain
import Recipe.Yaml.Scalar.Quoted

namespace Recipe.Yaml

namespace Cut

def maxDepth : Nat := 255

def finish : Cut Unit := do
  let m ← mark
  let m := if m.column = 0 then m else ⟨m.line + 1, 0⟩
  if (← get).candidates.any Candidate.required then fail .key m
  modify fun l => { l with
    cursor := { l.cursor with mark := m }
    candidate := none
    outer := l.outer.map fun _ => none }
  leave (-1)
  allowKey false
  push .streamEnd m

def directive : Cut Unit := do
  leave (-1)
  dropCandidate
  allowKey false
  let m ← mark
  push (.directive (← read Directive.read)) m

def documentMarker (t : Token) : Cut Unit := do
  leave (-1)
  dropCandidate
  allowKey false
  let m ← mark
  read (Read.skip 3)
  push t m

def documentEnd : Cut Unit := do
  documentMarker .documentEnd
  let _ ← read (Read.spaces true)
  let c ← cursor
  if !c.atBreak then fail .afterDocument c.mark

def endPair : Cut Unit := do
  let l ← get
  if l.inPair then
    set { l with mappingBegun := false, inPair := false }
    push .flowMappingEnd l.cursor.mark

def bracket (t : Token) : Cut Unit := do
  let m ← mark
  read (Read.skip 1)
  let _ ← read (Read.spaces true)
  push t m

def openBracket (t : Token) : Cut Unit := do
  saveCandidate
  hold
  let l ← get
  if l.outer.length = maxDepth then fail .depth l.cursor.mark
  set { l with
    outer := l.candidate :: l.outer
    candidate := none
    keyAllowed := true
    mappingBegun := l.mappingBegun || t == Token.flowMapping }
  bracket t

def closeBracket (t : Token) : Cut Unit := do
  dropCandidate
  modify fun l => { l with
    candidate := l.outer.head?.getD l.candidate
    outer := l.outer.tail
    keyAllowed := false }
  endPair
  bracket t
  modify fun l => if l.inFlow then { l with adjacent := l.cursor.index } else l

def comma : Cut Unit := do
  dropCandidate
  allowKey true
  endPair
  bracket .comma

/-- An anchor or a tag that stands before an entry in the first column belongs to no node. -/
def strayProperty? (l : Layout) : Option Mark :=
  if l.certain < l.tokens.size then
    match l.tokens.back? with
    | some ⟨.anchor _, m⟩ | some ⟨.tag .., m⟩ =>
      if l.cursor.mark.column = 0 ∧ m.column = 0 ∧ 0 ≤ l.indent then some m else none
    | _ => none
  else none

def entry : Cut Unit := do
  let l ← get
  let m := l.cursor.mark
  if l.inFlow then fail .entryInFlow m
  if !l.keyAllowed then fail .entryPlace m
  if let some m := strayProperty? l then fail .anchorIndentation m
  read (Read.skip 1)
  enter m.column none .blockSequence m
  let run ← read (Read.spaces true)
  let c ← cursor
  if '\t' ∈ run ∧ c.startsWith '-' ∧ startsWithGap (c.rest.drop 1) then fail .entryTab c.mark
  if c.starts fun d => isBreak d || isFlow d then hold
  dropCandidate
  allowKey true
  push .entry (← mark)

def markedKey : Cut Unit := do
  let l ← get
  let m := l.cursor.mark
  if l.inFlow then set { l with mappingBegun := true }
  else
    if !l.keyAllowed then fail .keyPlace m
    enter m.column none .blockMapping m
  dropCandidate
  allowKey (!l.inFlow)
  read (Read.skip 1)
  let ended ← read Read.tablessGap
  if ended && !l.inFlow then allowKey true
  let c ← cursor
  if c.startsWith '\t' then fail .gapTab c.mark
  push .key m

/-- A colon makes a key of the candidate before it, and starts the mapping that the key is in: in
brackets, where no mapping has begun, a pair. -/
def value : Cut Unit := do
  let l ← get
  let m := l.cursor.mark
  let startsPair := l.inFlow && !l.mappingBegun
  set { l with inPair := startsPair }
  read (Read.skip 1)
  if (← cursor).startsWith '\t' then
    let run ← read (Read.spaces true)
    let c ← cursor
    if ' ' ∉ run ∧ (c.startsWith '-' ∨ c.starts isWord) then fail .valueTab c.mark
  match l.candidate with
  | some k =>
    insert k.number .key k.mark
    if startsPair then
      if k.mark.line < m.line then fail .valueLine m
      insert k.number .flowMapping (← mark)
    enter k.mark.column (some k.number) .blockMapping m
    hold
    modify fun l => { l with candidate := none, keyAllowed := false }
  | none =>
    if startsPair then push .flowMapping (← mark)
    if !l.inFlow then
      if !l.keyAllowed then fail .valuePlace m
      enter m.column none .blockMapping m
    hold
    allowKey (!l.inFlow)
  push .value m

def node (r : Read Token) : Cut Unit := do
  saveCandidate
  allowKey false
  let m ← mark
  push (← read r) m

def block (literal : Bool) : Cut Unit := do
  saveCandidate
  allowKey true
  release
  let (text, m) ← read (Block.read literal (← get).indent)
  push (.scalar false (String.ofList text)) m

def quoted (quote : Char) : Cut Unit := do
  saveCandidate
  allowKey false
  let l ← get
  let text ← read (Quoted.read quote l.inFlow l.indent)
  gap
  modify fun l => { l with adjacent := l.cursor.index }
  push (.scalar false (String.ofList text)) l.cursor.mark

def plain : Cut Unit := do
  saveCandidate
  allowKey false
  release
  let l ← get
  let text ← read (Plain.read l.inFlow l.indent)
  if (← cursor).fresh then allowKey true
  push (.scalar true (String.ofList text)) l.cursor.mark

def token (l : Layout) (c : Char) (next : List Char) : Cut Unit :=
  if c = '[' then openBracket .flowSequence
  else if c = '\x7b' then openBracket .flowMapping
  else if c = ']' then closeBracket .flowSequenceEnd
  else if c = '\x7d' then closeBracket .flowMappingEnd
  else if c = ',' then comma
  else if c = '-' ∧ startsWithGap next then entry
  else if c = '?' ∧ startsWithGap next then markedKey
  else if c = ':' ∧ (startsWithGap next ∨
      l.inFlow ∧ (next.head?.any isFlow ∨ l.cursor.index = l.adjacent)) then value
  else if c = '*' then node (Token.alias <$> Tag.readAnchor)
  else if c = '&' then node (Token.anchor <$> Tag.readAnchor)
  else if c = '!' then node ((fun (h, s) => Token.tag h s) <$> Tag.read l.inFlow)
  else if c = '|' ∧ !l.inFlow then block true
  else if c = '>' ∧ !l.inFlow then block false
  else if c = Quoted.single ∨ c = Quoted.double then quoted c
  else if c ∈ ['%', '@', '\x60'] then fail (.character c) l.cursor.mark
  else plain

def step : Cut Bool := do
  gap
  expire
  leave (← mark).column
  let l ← get
  let c := l.cursor
  match c.rest with
  | [] =>
    finish
    return true
  | d :: next =>
    if c.mark.column = 0 ∧ d = '%' then directive
    else if c.mark.column = 0 ∧ c.atTriple '-' then documentMarker .documentStart
    else if c.mark.column = 0 ∧ c.atTriple '.' then documentEnd
    else if c.mark.column < l.indent then fail .indentation c.mark
    else token l d next
    return false

end Cut

structure Tokens where
  list : List Placed
  fault : Option Error

namespace Tokens

/-- Cuts what is left in at most `n` steps. Of the tokens before a fault only those count that are
certain. -/
def ofLayout (l : Layout) : Nat → Tokens
  | 0 => ⟨l.tokens.toList, none⟩
  | n + 1 =>
    match Cut.expire l with
    | .error e => ⟨l.tokens.toList.take l.certain, some e⟩
    | .ok ((), l) =>
      let l := l.settle
      match Cut.step l with
      | .error e => ⟨l.tokens.toList.take l.certain, some e⟩
      | .ok (true, l) => ⟨l.tokens.toList, none⟩
      | .ok (false, l) => ofLayout l n

def ofText (text : String) : Tokens :=
  let c := Cursor.ofText text
  ofLayout { cursor := c } (c.rest.length + 2)

end Tokens

end Recipe.Yaml
