import Recipe.Json.Token

namespace Recipe

open Json (Token)

namespace Value

mutual

def tokens : Value → List Token
  | .unset => [.null]
  | .scalar s => [.ofScalar s]
  | .sequence vs => .openArray :: itemTokens vs ++ [.closeArray]
  | .mapping es => .openObject :: entryTokens es ++ [.closeObject]

def itemTokens : List Value → List Token
  | [] => []
  | [v] => v.tokens
  | v :: w :: vs => v.tokens ++ .comma :: itemTokens (w :: vs)

def entryTokens : List (String × Value) → List Token
  | [] => []
  | [(k, v)] => .string k :: .colon :: v.tokens
  | (k, v) :: e :: es => .string k :: .colon :: v.tokens ++ .comma :: entryTokens (e :: es)

end

def render (v : Value) : String := String.ofList (v.tokens.flatMap Token.text)

def newline (depth : Nat) : List Char := '\n' :: List.replicate (2 * depth) ' '

mutual

def indentedText (depth : Nat) : Value → List Char
  | .unset => Token.null.text
  | .scalar s => (Token.ofScalar s).text
  | .sequence [] => ['[', ']']
  | .sequence (v :: vs) => '[' :: indentedItems (depth + 1) (v :: vs) ++ newline depth ++ [']']
  | .mapping [] => ['\x7b', '\x7d']
  | .mapping (e :: es) => '\x7b' :: indentedEntries (depth + 1) (e :: es) ++ newline depth ++ ['\x7d']

def indentedItems (depth : Nat) : List Value → List Char
  | [] => []
  | [v] => newline depth ++ v.indentedText depth
  | v :: w :: vs => newline depth ++ v.indentedText depth ++ ',' :: indentedItems depth (w :: vs)

def indentedEntries (depth : Nat) : List (String × Value) → List Char
  | [] => []
  | [(k, v)] => newline depth ++ Json.quote k ++ ':' :: ' ' :: v.indentedText depth
  | (k, v) :: e :: es =>
    newline depth ++ Json.quote k ++ ':' :: ' ' :: v.indentedText depth ++
      ',' :: indentedEntries depth (e :: es)

end

def renderIndented (v : Value) : String := String.ofList (v.indentedText 0)

end Value

end Recipe
