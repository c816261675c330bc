import Recipe.Decimal.Numeral
import Recipe.Yaml.Scalar.Gap

namespace Recipe.Yaml.Quoted

def single : Char := '\x27'

def double : Char := '"'

inductive Escape
  | code : Nat → Escape
  | digits : Nat → Escape

def escape? : Char → Option Escape
  | '0' => some (.code 0x00)
  | 'a' => some (.code 0x07)
  | 'b' => some (.code 0x08)
  | 't' | '\t' => some (.code 0x09)
  | 'n' => some (.code 0x0A)
  | 'v' => some (.code 0x0B)
  | 'f' => some (.code 0x0C)
  | 'r' => some (.code 0x0D)
  | 'e' => some (.code 0x1B)
  | ' ' => some (.code 0x20)
  | '"' => some (.code 0x22)
  | '/' => some (.code 0x2F)
  | '\\' => some (.code 0x5C)
  | 'N' => some (.code 0x85)
  | '_' => some (.code 0xA0)
  | 'L' => some (.code 0x2028)
  | 'P' => some (.code 0x2029)
  | 'x' => some (.digits 2)
  | 'u' => some (.digits 4)
  | 'U' => some (.digits 8)
  | _ => none

def char? (n : Nat) : Option Char := if n.isValidChar then some (Char.ofNat n) else none

def escape (start : Mark) : Read Char := do
  match (← get).second?.bind escape? with
  | none => Read.fail .escape start
  | some (.code n) =>
    Read.skip 2
    return Char.ofNat n
  | some (.digits k) =>
    Read.skip 2
    let ds := (← get).rest.take k
    match ds.mapM Decimal.hexValue? with
    | none => Read.fail .escapeDigits start
    | some vs =>
      if vs.length < k then Read.fail .escapeDigits start
      match char? (vs.foldl (16 * · + ·) 0) with
      | none => Read.fail .escapeCode start
      | some c =>
        Read.skip k
        return c

def wordWithin (quote : Char) (start : Mark) : Nat → Read (List Char × Bool)
  | 0 => return ([], false)
  | n + 1 => do
    let c ← get
    let next := c.second?
    match c.rest.head? with
    | none => return ([], false)
    | some d =>
      if isSpace d || isBreak d then return ([], false)
      else if d = quote then
        if quote = single ∧ next = some single then
          Read.skip 2
          let (w, joined) ← wordWithin quote start n
          return (d :: w, joined)
        else return ([], false)
      else if quote = double ∧ d = '\\' then
        if next.any isBreak then
          Read.skip 2
          return ([], true)
        else
          let e ← escape start
          let (w, joined) ← wordWithin quote start n
          return (e :: w, joined)
      else
        Read.skip 1
        let (w, joined) ← wordWithin quote start n
        return (d :: w, joined)

def onTab : Read Unit := do Read.fail .quotedTab (← Read.mark)

def readWithin (quote : Char) (indent : Int) (start : Mark) (text : List Char) :
    Nat → Read (List Char)
  | 0 => return text
  | n + 1 => do
    let c ← get
    if c.mark.column = 0 ∧ c.atDocumentMarker then Read.fail .quotedMarker start
    if c.atEnd then Read.fail .quotedEnd start
    if c.mark.column < indent then Read.fail .quotedIndentation start
    let (w, joined) ← wordWithin quote start (c.rest.length + 1)
    if (← get).startsWith quote then return text ++ w
    let g ← Gap.read indent onTab joined
    readWithin quote indent start
      (text ++ w ++ if joined then Gap.lines g.breaks else g.text) n

def mayFollow (flow : Bool) (start : Mark) (c : Cursor) : Bool :=
  c.atBreak || flow && c.starts (· ∈ [',', ']', '\x7d', ':']) ||
    c.startsWith ':' && start.line == c.mark.line

def read (quote : Char) (flow : Bool) (indent : Int) : Read (List Char) := do
  let start ← Read.mark
  Read.skip 1
  let text ← readWithin quote indent start [] ((← get).rest.length + 1)
  Read.skip 1
  let _ ← Read.spaces true
  let c ← get
  if !mayFollow flow start c then Read.fail .quotedRest c.mark
  return text

end Recipe.Yaml.Quoted
