import Recipe.Yaml.Schema
import Recipe.Yaml.Tokens

/-! The documents that tokens make up, each of them one node. An alias is a copy of the node that its
anchor is at. -/

namespace Recipe.Yaml

/-- The tokens to come and what is wrong after them; the anchors of a document, each with its node once
that is complete; what tag handles stand for; and the first key that came twice. -/
structure Source where
  tokens : List Placed
  fault : Error
  anchors : Array (String × Option Node) := #[]
  handles : List (String × String) := []
  repeated : Option Error := none

abbrev Build := StateT Source (Except Error)

namespace Build

def fail (p : Problem) (m : Mark) : Build α := throw ⟨p, m⟩

def peek : Build Placed := do
  let s ← get
  match s.tokens with
  | t :: _ => return t
  | [] => throw s.fault

def skip : Build Unit := modify fun s => { s with tokens := s.tokens.tail }

def register (name : String) : Build Nat := fun s =>
  .ok (s.anchors.size, { s with anchors := s.anchors.push (name, none) })

def complete (id : Option Nat) (n : Node) : Build Unit :=
  match id with
  | none => pure ()
  | some i => modify fun s => { s with anchors := s.anchors.modify i fun a => (a.1, some n) }

def resolve (name : String) (m : Mark) : Build Node := do
  match (← get).anchors.toList.reverse.lookup name with
  | none => fail .unknownAnchor m
  | some n => return n.getD .bad

end Build

abbrev Typing := Option (Option String)

def coreLead : String := "tag:yaml.org,2002:"

def Build.typing (handle suffix : String) (m : Mark) : Build (Option String) := do
  let lead? := (← get).handles.lookup handle
  let lead ←
    if handle = "!!" then pure (lead?.getD coreLead)
    else match lead? with
      | some lead => pure lead
      | none =>
        if 2 ≤ handle.length ∧ handle.toList.getLast? = some '!' then
          Build.fail .unknownHandle m
        else pure handle
  return if lead = coreLead then some suffix else none

def Node.ofScalar (plain : Bool) (text : String) : Typing → Node
  | none => if plain then .ofPlain text else .string text
  | some (some type) => if plain then .ofTyped type text else .string text
  | some none => .string text

structure Properties where
  anchor : Option Nat := none
  type : Typing := none

def Properties.read : Build Properties := do
  let t ← Build.peek
  match t.token with
  | .anchor name =>
    Build.skip
    let id ← Build.register name
    match (← Build.peek).token with
    | .tag h s =>
      Build.skip
      return ⟨id, some (← Build.typing h s t.mark)⟩
    | _ => return ⟨id, none⟩
  | .tag h s =>
    Build.skip
    let type ← Build.typing h s t.mark
    match (← Build.peek).token with
    | .anchor name =>
      Build.skip
      return ⟨← Build.register name, some type⟩
    | _ => return ⟨none, some type⟩
  | _ => return {}

structure Pairs where
  entries : List (Node × Node) := []
  key : Option Node := none

/-- A node is a value if there is a key before it, and else a key. What is bad is no key. -/
def Pairs.add (p : Pairs) (n : Node) (m : Mark) : Build Pairs := do
  match p.key with
  | none => return { p with key := if n = .bad then none else some n }
  | some k =>
    if p.entries.any (·.1 = k) then
      modify fun s => { s with repeated := s.repeated.or (some ⟨.repeatedKey k, m⟩) }
    return ⟨p.entries ++ [(k, n)], none⟩

namespace Token

def isDirective (t : Token) : Bool := t matches .directive _

def endsDocument (t : Token) : Bool :=
  t matches .directive _ | .documentStart | .documentEnd | .streamEnd

def endsBlockPart (t : Token) : Bool := t matches .key | .value | .blockEnd

end Token

abbrev Ended := Node × Mark

namespace Build

mutual

def node (block dashes : Bool) : Nat → Build Ended
  | 0 => do throw (← get).fault
  | n + 1 => do
    let t ← peek
    match t.token with
    | .alias name =>
      skip
      return (← resolve name t.mark, t.mark)
    | _ =>
      let p ← Properties.read
      let (node, m) ← content block dashes p n
      complete p.anchor node
      return (node, m)

def content (block dashes : Bool) (p : Properties) : Nat → Build Ended
  | 0 => do throw (← get).fault
  | n + 1 => do
    let t ← peek
    match t.token, block, dashes with
    | .entry, _, true => dashedItems [] n
    | .scalar plain text, _, _ =>
      skip
      return (.ofScalar plain text p.type, t.mark)
    | .flowSequence, _, _ =>
      skip
      flowItems true [] n
    | .flowMapping, _, _ =>
      skip
      flowPairs true {} n
    | .blockSequence, true, _ =>
      skip
      blockItems [] n
    | .blockMapping, true, _ =>
      skip
      blockPairs {} n
    | _, _, _ =>
      if p.anchor.isSome ∨ p.type.isSome then return (.ofScalar true "" p.type, t.mark)
      else fail .content t.mark

def blockItems (done : List Node) : Nat → Build Ended
  | 0 => do throw (← get).fault
  | n + 1 => do
    let t ← peek
    match t.token with
    | .blockEnd =>
      skip
      return (.array done, t.mark)
    | .entry =>
      skip
      let (item, _) ← match (← peek).token with
        | .entry | .blockEnd => pure (.null, t.mark)
        | _ => node true false n
      blockItems (done ++ [item]) n
    | _ => fail .blockEntry t.mark

def dashedItems (done : List Node) : Nat → Build Ended
  | 0 => do throw (← get).fault
  | n + 1 => do
    let t ← peek
    match t.token with
    | .entry =>
      skip
      let (item, _) ← match (← peek).token with
        | .entry | .key | .value | .blockEnd => pure (.null, t.mark)
        | _ => node true false n
      dashedItems (done ++ [item]) n
    | _ => return (.array done, t.mark)

def blockPairs (p : Pairs) : Nat → Build Ended
  | 0 => do throw (← get).fault
  | n + 1 => do
    let t ← peek
    match t.token with
    | .blockEnd =>
      skip
      return (.hash p.entries, t.mark)
    | .key =>
      skip
      let p ← blockPart p n
      blockPairs (← blockValue p n) n
    | .value =>
      let p ← p.add .null t.mark
      blockPairs (← blockValue p n) n
    | _ => fail .blockKey t.mark

def blockPart (p : Pairs) : Nat → Build Pairs
  | 0 => do throw (← get).fault
  | n + 1 => do
    let t ← peek
    if t.token.endsBlockPart then p.add .null t.mark
    else
      let (node, m) ← node true true n
      p.add node m

def blockValue (p : Pairs) : Nat → Build Pairs
  | 0 => do throw (← get).fault
  | n + 1 => do
    let t ← peek
    match t.token with
    | .value =>
      skip
      blockPart p n
    | _ => p.add .null t.mark

def flowItems (first : Bool) (done : List Node) : Nat → Build Ended
  | 0 => do throw (← get).fault
  | n + 1 => do
    let t ← peek
    match t.token, first with
    | .flowSequenceEnd, _ =>
      skip
      return (.array done, t.mark)
    | .comma, false =>
      skip
      flowItem done n
    | _, false => fail .flowSequence t.mark
    | _, true => flowItem done n

def flowItem (done : List Node) : Nat → Build Ended
  | 0 => do throw (← get).fault
  | n + 1 => do
    let t ← peek
    match t.token with
    | .flowSequenceEnd =>
      skip
      return (.array done, t.mark)
    | .key =>
      skip
      let p ← flowPairKey n
      let p ← flowValue .flowSequenceEnd p n
      flowItems false (done ++ [.hash p.entries]) n
    | _ =>
      let (item, _) ← node false false n
      flowItems false (done ++ [item]) n

def flowPairKey : Nat → Build Pairs
  | 0 => do throw (← get).fault
  | n + 1 => do
    let t ← peek
    match t.token with
    | .value | .comma | .flowSequenceEnd =>
      skip
      Pairs.add {} .null t.mark
    | _ =>
      let (node, m) ← node false false n
      Pairs.add {} node m

def flowPairs (first : Bool) (p : Pairs) : Nat → Build Ended
  | 0 => do throw (← get).fault
  | n + 1 => do
    let t ← peek
    match t.token, first with
    | .flowMappingEnd, _ =>
      skip
      return (.hash p.entries, t.mark)
    | .comma, false =>
      skip
      flowPair t.mark p n
    | _, false => fail .flowMapping t.mark
    | _, true => flowPair t.mark p n

def flowPair (start : Mark) (p : Pairs) : Nat → Build Ended
  | 0 => do throw (← get).fault
  | n + 1 => do
    let t ← peek
    match t.token with
    | .flowMappingEnd =>
      skip
      return (.hash p.entries, start)
    | .key =>
      skip
      let u ← peek
      let p ← match u.token with
        | .value | .comma | .flowMappingEnd => p.add .null u.mark
        | _ => do
          let (node, m) ← node false false n
          p.add node m
      flowPairs false (← flowValue .flowMappingEnd p n) n
    | .value =>
      let p ← p.add .null t.mark
      flowPairs false (← flowValue .flowMappingEnd p n) n
    | _ =>
      let (node, m) ← node false false n
      let p ← p.add node m
      flowPairs false (← p.add .null (← peek).mark) n

def flowValue (close : Token) (p : Pairs) : Nat → Build Pairs
  | 0 => do throw (← get).fault
  | n + 1 => do
    let t ← peek
    if t.token = .value then
      skip
      let u ← peek
      if u.token = .comma ∨ u.token = close then p.add .null t.mark
      else
        let (node, m) ← node false false n
        p.add node m
    else p.add .null t.mark

end

/-- A whole node. Of any five of these steps in a row one takes a token. -/
def tree : Build Node := do
  return (← node true false (5 * (← get).tokens.length + 5)).1

def directives (version : Bool) : Nat → Build Unit
  | 0 => return
  | n + 1 => do
    let t ← peek
    match t.token with
    | .directive .version =>
      if version then fail .repeatedVersion t.mark
      modify fun s => { s with handles := [] }
      skip
      directives true n
    | .directive (.handle h l) =>
      modify fun s => { s with handles := [(h, l)] }
      skip
      directives version n
    | _ => return

def markedDocument : Build Node := do
  directives false ((← get).tokens.length + 1)
  let t ← peek
  if t.token ≠ .documentStart then fail .documentStart t.mark
  skip
  if (← peek).token.endsDocument then return .null else tree

def endDocument : Build Bool := do
  let t ← peek
  modify fun s => { s with handles := [] }
  if t.token = .documentEnd then
    skip
    return true
  else
    if t.token.isDirective then fail .directivePlace t.mark
    return false

/-- The documents from here on, at most `n`. The first one needs no marker, nor does one after an end
marker. -/
def documents (unmarked : Bool) : Nat → Build (List Node)
  | 0 => return []
  | n + 1 => do
    modify fun s => { s with
      tokens := s.tokens.dropWhile (·.token = .documentEnd)
      anchors := #[] }
    let t ← (peek : Build Placed)
    if t.token = .streamEnd then return []
    let node ← if unmarked && !t.token.endsDocument then tree else markedDocument
    let unmarked ← endDocument
    return node :: (← documents unmarked n)

end Build

def documents (text : String) : Except Error (List Node) := do
  let ts := Tokens.ofText text
  let s : Source := ⟨ts.list, ts.fault.getD ⟨.noToken, ⟨1, 0⟩⟩, #[], [], none⟩
  let (ns, s) ← Build.documents true (ts.list.length + 1) s
  match s.repeated with
  | some e => .error e
  | none => .ok ns

end Recipe.Yaml
