import Recipe.Value
import Recipe.Decimal.Shortest

namespace Recipe.Json

inductive Token
  | null
  | bool : Bool → Token
  | integer : Int64 → Token
  | float : Binary64 → Token
  | string : String → Token
  | openArray
  | closeArray
  | openObject
  | closeObject
  | comma
  | colon
  deriving DecidableEq

def floatLayout : Decimal.Layout where
  tie := .even
  positional := some (-5, 15)
  whole := ".0"
  nan := "null"
  infinity := "null"
  negativeInfinity := "null"

def escape (c : Char) : List Char :=
  if c = '"' then ['\\', '"']
  else if c = '\\' then ['\\', '\\']
  else if c.toNat < 32 then
    match c.toNat with
    | 8 => ['\\', 'b']
    | 9 => ['\\', 't']
    | 10 => ['\\', 'n']
    | 12 => ['\\', 'f']
    | 13 => ['\\', 'r']
    | n => ['\\', 'u', '0', '0', Decimal.hexDigit (n / 16), Decimal.hexDigit (n % 16)]
  else [c]

def quote (s : String) : List Char := '"' :: s.toList.flatMap escape ++ ['"']

namespace Token

def text : Token → List Char
  | .null => ['n', 'u', 'l', 'l']
  | .bool true => ['t', 'r', 'u', 'e']
  | .bool false => ['f', 'a', 'l', 's', 'e']
  | .integer i => Decimal.intDigits i.toInt
  | .float x => (floatLayout.text x).toList
  | .string s => quote s
  | .openArray => ['[']
  | .closeArray => [']']
  | .openObject => ['\x7b']
  | .closeObject => ['\x7d']
  | .comma => [',']
  | .colon => [':']

def ofScalar : Scalar → Token
  | .string s => .string s
  | .integer i => .integer i
  | .float x => .float x
  | .bool b => .bool b

end Token

end Recipe.Json
