import Recipe.Decimal.Numeral
import Recipe.Yaml.Node

namespace Recipe.Yaml

def readReal (s : String) : Option Binary64 :=
  if s ∈ [".inf", ".Inf", ".INF", "+.inf", "+.Inf", "+.INF"] then some (.infinity false)
  else if s ∈ ["-.inf", "-.Inf", "-.INF"] then some (.infinity true)
  else if s ∈ [".nan", ".NaN", ".NAN"] then some .nan
  else (Decimal.readNumeral s.toList).map Decimal.Numeral.toBinary64

def readDecimal (s : String) : Option Int64 := Decimal.readInt64 10 Decimal.decimalValue? s.toList

def readMarked : List Char → Option Int64
  | '0' :: 'x' :: cs => Decimal.readInt64 16 Decimal.hexValue? cs
  | '0' :: 'o' :: cs => Decimal.readInt64 8 Decimal.octalValue? cs
  | '+' :: cs => Decimal.readInt64 10 Decimal.decimalValue? cs
  | _ => none

def readBool (s : String) : Option Bool :=
  if s ∈ ["true", "True", "TRUE"] then some true
  else if s ∈ ["false", "False", "FALSE"] then some false
  else none

namespace Node

def ofPlain (s : String) : Node :=
  match readMarked s.toList with
  | some i => .integer i
  | none =>
    if s ∈ ["", "~", "null"] then .null
    else match readBool s, readDecimal s, readReal s with
      | some b, _, _ => .bool b
      | none, some i, _ => .integer i
      | none, none, some _ => .real s
      | none, none, none => .string s

def ofTyped (type s : String) : Node :=
  if type = "bool" then (readBool s).elim .bad .bool
  else if type = "int" then (readDecimal s).elim .bad .integer
  else if type = "float" then if (readReal s).isSome then .real s else .bad
  else if type = "null" then if s = "~" ∨ s = "null" then .null else .bad
  else .string s

end Node

end Recipe.Yaml
