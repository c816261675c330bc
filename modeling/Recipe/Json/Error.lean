namespace Recipe.Json

-- the same sums whatever else is imported
local instance natZero : Zero Nat := ⟨0⟩

inductive Fault
  | endInValue
  | endInArray
  | endInObject
  | endInString
  | noValue
  | word
  | noColon
  | noArrayEnd
  | noObjectEnd
  | key
  | trailingComma
  | trailingText
  | number
  | range
  | escape
  | control
  | surrogate
  | surrogatePair
  | depth
  deriving DecidableEq

def Fault.message : Fault → String
  | .endInValue => "EOF while parsing a value"
  | .endInArray => "EOF while parsing a list"
  | .endInObject => "EOF while parsing an object"
  | .endInString => "EOF while parsing a string"
  | .noValue => "expected value"
  | .word => "expected ident"
  | .noColon => "expected `:`"
  | .noArrayEnd => "expected `,` or `]`"
  | .noObjectEnd => "expected `,` or `\x7d`"
  | .key => "key must be a string"
  | .trailingComma => "trailing comma"
  | .trailingText => "trailing characters"
  | .number => "invalid number"
  | .range => "number out of range"
  | .escape => "invalid escape"
  | .control => "control character (\\u0000-\\u001F) found while parsing a string"
  | .surrogate => "lone leading surrogate in hex escape"
  | .surrogatePair => "unexpected end of hex escape"
  | .depth => "recursion limit exceeded"

/-- A fault, the text from near it on, and how many bytes into that text it is. -/
structure Error where
  fault : Fault
  rest : List Char
  ahead : Nat

def advance (bytes : Nat) (place : Nat × Nat) : List Char → Nat × Nat
  | [] => place
  | c :: cs =>
    if bytes = 0 then place
    else if c = '\n' then advance (bytes - 1) (place.1 + 1, 0) cs
    else advance (bytes - c.utf8Size) (place.1, place.2 + min bytes c.utf8Size) cs

def Error.message (text : List Char) (e : Error) : String :=
  let read := text.take (text.length - e.rest.length)
  let place := advance (read.map Char.utf8Size).sum (1, 0) read
  let place := advance e.ahead place e.rest
  s!"{e.fault.message} at line {place.1} column {place.2}"

end Recipe.Json
