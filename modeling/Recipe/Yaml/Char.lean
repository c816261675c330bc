import Recipe.Decimal.Digits

namespace Recipe.Yaml

def isBreak (c : Char) : Bool := c == '\n' || c == '\r'

def isSpace (c : Char) : Bool := c == ' ' || c == '\t'

def isFlow (c : Char) : Bool := c ∈ [',', '[', ']', '\x7b', '\x7d']

def isWord (c : Char) : Bool :=
  Decimal.isDigit c || 'a' ≤ c && c ≤ 'z' || 'A' ≤ c && c ≤ 'Z' || c == '_' || c == '-'

def isUri (c : Char) : Bool := isWord c || c ∈ "#;/?:@&=+$,.!~*'()[]%".toList

def isTag (c : Char) : Bool := isUri c && !isFlow c && c != '!'

def isAnchor (c : Char) : Bool := !isBreak c && !isSpace c && !isFlow c && c != '\ufeff'

def startsWithGap : List Char → Bool
  | [] => true
  | c :: _ => isSpace c || isBreak c

def startsWithBreak : List Char → Bool
  | [] => true
  | c :: _ => isBreak c

end Recipe.Yaml
