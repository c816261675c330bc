import Recipe.Decimal.Numeral
import Recipe.Yaml.Cursor

namespace Recipe.Yaml

inductive Directive
  | version
  | handle : (name lead : String) → Directive
  deriving DecidableEq

namespace Tag

def followers? (byte : Nat) : Option Nat :=
  if byte < 0x80 then some 0
  else if byte < 0xC0 then none
  else if byte < 0xE0 then some 1
  else if byte < 0xF0 then some 2
  else if byte < 0xF8 then some 3
  else none

def byte (start : Mark) : Read Nat := do
  match (← get).rest with
  | '%' :: a :: b :: _ =>
    match Decimal.hexValue? a, Decimal.hexValue? b with
    | some a, some b =>
      Read.skip 3
      return 16 * a + b
    | _, _ => Read.fail .uriEscape start
  | _ => Read.fail .uriEscape start

def followingBytes (start : Mark) (code : Nat) : Nat → Read Nat
  | 0 => return code
  | n + 1 => do
    let b ← byte start
    if b < 0x80 ∨ 0xBF < b then Read.fail .uriTrail start
    followingBytes start (256 * code + b) n

/-- The character of an escape such as `%21`. Its bytes are taken as the digits of its code. -/
def escape (start : Mark) : Read Char := do
  let b ← byte start
  match followers? b with
  | none => Read.fail .uriLead start
  | some n =>
    let code ← followingBytes start b n
    if code.isValidChar then return Char.ofNat code else Read.fail .uriCode start

def charsWithin (p : Char → Bool) (start : Mark) : Nat → Read (List Char)
  | 0 => return []
  | n + 1 => do
    match (← get).rest.head? with
    | none => return []
    | some d =>
      if !p d then return []
      else if d = '%' then
        let e ← escape start
        return e :: (← charsWithin p start n)
      else
        Read.skip 1
        return d :: (← charsWithin p start n)

def chars (p : Char → Bool) (start : Mark) : Read (List Char) := do
  charsWithin p start ((← get).rest.length + 1)

def handle (start : Mark) : Read (List Char) := do
  if !(← get).startsWith '!' then Read.fail .tagMark start
  Read.skip 1
  let w ← Read.takeWhile isWord
  if (← get).startsWith '!' then
    Read.skip 1
    return '!' :: w ++ ['!']
  else return '!' :: w

def readParts (start : Mark) : Read (List Char × List Char) := do
  if (← get).second? = some '<' then
    Read.skip 2
    let uri ← chars isUri start
    if !(← get).startsWith '>' then Read.fail .tagVerbatim start
    Read.skip 1
    return ([], uri)
  else
    let h ← handle start
    let s ← chars isTag start
    if 2 ≤ h.length ∧ h.getLast? = some '!' then
      if s = [] then Read.fail .tagMissing start
      return (h, s)
    else if h.length = 1 ∧ s = [] then return ([], ['!'])
    else return (['!'], h.drop 1 ++ s)

def read (flow : Bool) : Read (String × String) := do
  let start ← Read.mark
  let (h, s) ← readParts start
  let c ← get
  if !c.atGap && !(flow && c.starts isFlow) then Read.fail .tagEnd start
  return (String.ofList h, String.ofList s)

def readAnchor : Read String := do
  let start ← Read.mark
  Read.skip 1
  let name ← Read.takeWhile isAnchor
  if name = [] then Read.fail .anchorName start
  return String.ofList name

end Tag

namespace Directive

def versionNumber (start : Mark) : Read Unit := do
  let ds ← Read.takeWhile Decimal.isDigit
  if 9 < ds.length then Read.fail .versionLength start
  if ds = [] then Read.fail .versionNumber start

def readVersion (start : Mark) : Read Directive := do
  Read.skipWhile isSpace
  versionNumber start
  if !(← get).startsWith '.' then Read.fail .versionPoint start
  Read.skip 1
  versionNumber start
  return .version

def lead (start : Mark) : Read (List Char) := do
  match (← get).rest.head? with
  | none => Read.fail .tagLead start
  | some d =>
    if d = '!' then
      Read.skip 1
      return '!' :: (← Tag.chars isUri start)
    else if isTag d then Tag.chars isUri start
    else Read.fail .tagLead start

def readHandle (start : Mark) : Read Directive := do
  Read.skipWhile isSpace
  let h ← Tag.handle start
  if h.getLast? ≠ some '!' then Read.fail .tagHandle start
  Read.skipWhile isSpace
  let l ← lead start
  if !(← get).atGap then Read.fail .tagDirectiveEnd start
  return .handle (String.ofList h) (String.ofList l)

def read : Read Directive := do
  let start ← Read.mark
  Read.skip 1
  let m ← Read.mark
  let name ← Read.takeWhile isWord
  if name = [] then Read.fail .directiveName m
  if !(← get).atGap then Read.fail .directiveCharacter m
  let d ←
    if name = "YAML".toList then readVersion start
    else if name = "TAG".toList then readHandle start
    else
      Read.skipWhile (!isBreak ·)
      pure (.handle "" "")
  let _ ← Read.spaces true
  if !(← get).atBreak then Read.fail .directiveEnd start
  Read.skip 1
  return d

end Directive

end Recipe.Yaml
