import Recipe.Json.Number
import Recipe.Decimal.Numeral

namespace Recipe.Json

-- the same sums whatever else is imported
attribute [local instance] natZero

structure Lexeme where
  start : List Char
  token : Except Error Token

def isSpace (c : Char) : Bool := c == ' ' || c == '\n' || c == '\t' || c == '\r'

def fourHexDigits? (a b c d : Char) : Option Nat := do
  let a ← Decimal.hexValue? a
  let b ← Decimal.hexValue? b
  let c ← Decimal.hexValue? c
  let d ← Decimal.hexValue? d
  return ((a * 16 + b) * 16 + c) * 16 + d

def readHex : (cs : List Char) → Except Error (Nat × { r : List Char // r.length < cs.length })
  | a :: b :: c :: d :: r =>
    match fourHexDigits? a b c d with
    | some n => .ok (n, ⟨r, by simp; omega⟩)
    | none => .error ⟨.escape, a :: b :: c :: d :: r, 4⟩
  | cs =>
    if 4 ≤ (cs.map Char.utf8Size).sum then .error ⟨.escape, cs, 4⟩ else .error ⟨.endInString, [], 0⟩

def readEscape : (cs : List Char) → Except Error (Char × { r : List Char // r.length < cs.length })
  | [] => .error ⟨.endInString, [], 0⟩
  | '"' :: r => .ok ('"', ⟨r, by simp⟩)
  | '\\' :: r => .ok ('\\', ⟨r, by simp⟩)
  | '/' :: r => .ok ('/', ⟨r, by simp⟩)
  | 'b' :: r => .ok (Char.ofNat 8, ⟨r, by simp⟩)
  | 'f' :: r => .ok (Char.ofNat 12, ⟨r, by simp⟩)
  | 'n' :: r => .ok ('\n', ⟨r, by simp⟩)
  | 'r' :: r => .ok ('\r', ⟨r, by simp⟩)
  | 't' :: r => .ok ('\t', ⟨r, by simp⟩)
  | 'u' :: r => do
    let (n, ⟨s, hs⟩) ← readHex r
    if 0xDC00 ≤ n ∧ n ≤ 0xDFFF then .error ⟨.surrogate, s, 0⟩
    else if n < 0xD800 ∨ 0xDBFF < n then .ok (Char.ofNat n, ⟨s, by simp; omega⟩)
    else match s, hs with
      | [], _ => .error ⟨.endInString, [], 0⟩
      | '\\' :: [], _ => .error ⟨.endInString, [], 0⟩
      | '\\' :: 'u' :: t, hs => do
        let (m, ⟨u, hu⟩) ← readHex t
        if m < 0xDC00 ∨ 0xDFFF < m then .error ⟨.surrogate, u, 0⟩
        else
          .ok (Char.ofNat (0x10000 + (n - 0xD800) * 1024 + (m - 0xDC00)),
            ⟨u, by simp only [List.length_cons] at hs ⊢; omega⟩)
      | '\\' :: t, _ => .error ⟨.surrogatePair, t, 1⟩
      | t, _ => .error ⟨.surrogatePair, t, 1⟩
  | r => .error ⟨.escape, r, 1⟩

def readString (cs : List Char) :
    Except Error (List Char × { r : List Char // r.length < cs.length }) :=
  match cs with
  | [] => .error ⟨.endInString, [], 0⟩
  | c :: r =>
    if c = '"' then .ok ([], ⟨r, Nat.lt_succ_self _⟩)
    else if c = '\\' then do
      let (d, ⟨s, hs⟩) ← readEscape r
      let (ds, ⟨t, ht⟩) ← readString s
      .ok (d :: ds, ⟨t, Nat.lt_succ_of_lt (Nat.lt_trans ht hs)⟩)
    else if c.toNat < 32 then .error ⟨.control, c :: r, 1⟩
    else do
      let (ds, ⟨t, ht⟩) ← readString r
      .ok (c :: ds, ⟨t, Nat.lt_succ_of_lt ht⟩)
termination_by cs.length
decreasing_by all_goals (simp; try omega)

def readWord (token : Token) : (word cs : List Char) → Except Error (Token × List Char)
  | [], cs => .ok (token, cs)
  | _ :: _, [] => .error ⟨.endInValue, [], 0⟩
  | w :: ws, c :: cs => if w = c then readWord token ws cs else .error ⟨.word, c :: cs, 1⟩

def readToken : List Char → Except Error (Token × List Char)
  | [] => .error ⟨.endInValue, [], 0⟩
  | c :: cs =>
    if c = '[' then .ok (.openArray, cs)
    else if c = ']' then .ok (.closeArray, cs)
    else if c = '\x7b' then .ok (.openObject, cs)
    else if c = '\x7d' then .ok (.closeObject, cs)
    else if c = ',' then .ok (.comma, cs)
    else if c = ':' then .ok (.colon, cs)
    else if c = '"' then (readString cs).map fun (s, ⟨r, _⟩) => (.string (String.ofList s), r)
    else if c = 'n' then readWord .null ['u', 'l', 'l'] cs
    else if c = 't' then readWord (.bool true) ['r', 'u', 'e'] cs
    else if c = 'f' then readWord (.bool false) ['a', 'l', 's', 'e'] cs
    else if c = '-' ∨ Decimal.isDigit c then readNumber (c :: cs)
    else .error ⟨.noValue, c :: cs, 1⟩

/-- The lexemes of a text. A token takes at least one character, so as many steps as there are
characters are enough. -/
def lexemesWithin : Nat → List Char → List Lexeme
  | 0, _ => []
  | n + 1, cs =>
    match cs.dropWhile isSpace with
    | [] => []
    | c :: r =>
      match readToken (c :: r) with
      | .ok (t, s) => ⟨c :: r, .ok t⟩ :: lexemesWithin n s
      | .error e => [⟨c :: r, .error e⟩]

def lexemes (cs : List Char) : List Lexeme := lexemesWithin cs.length cs

end Recipe.Json
