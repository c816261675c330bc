import Recipe.Yaml.Scalar.Gap

namespace Recipe.Yaml.Plain

def word (flow : Bool) : List Char → List Char
  | [] => []
  | c :: cs =>
    if startsWithGap (c :: cs) || flow && isFlow c then []
    else if c == ':' && (startsWithGap cs || flow && (cs.head?.any isFlow)) then []
    else c :: word flow cs

def onTab (start : Mark) : Read Unit := do
  let _ ← Read.spaces true
  if !(← get).atBreak then Read.fail .plainTab start

def readWithin (flow : Bool) (margin : Int) (start : Mark) (text gap : List Char) :
    Nat → Read (List Char)
  | 0 => return text
  | n + 1 => do
    let c ← get
    if c.mark.column = 0 ∧ c.atDocumentMarker ∨ c.startsWith '#' then return text
    if flow && c.startsWith '-' && c.second?.any isFlow then Read.fail .plainDash c.mark
    let w := word flow c.rest
    let text := if w = [] then text else text ++ gap ++ w
    Read.skip w.length
    if !(← get).starts fun d => isSpace d || isBreak d then return text
    let g ← Gap.read margin (onTab start) false
    if !flow && (← get).mark.column < margin then return text
    readWithin flow margin start text g.text n

def read (flow : Bool) (indent : Int) : Read (List Char) := do
  let c ← get
  if flow && c.mark.column < indent + 1 then Read.fail .plainIndentation c.mark
  readWithin flow (indent + 1) c.mark [] [] (c.rest.length + 1)

end Recipe.Yaml.Plain
