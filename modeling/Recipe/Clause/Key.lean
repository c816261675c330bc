import Recipe.Error

namespace Recipe.Clause

inductive Key
  | clause : Head → Key
  | otherwise
  | plain
  deriving DecidableEq

def tryWord : String := "try"

def elseWord : String := "else"

def elseFail : String := "else fail"

def afterWord (word key : List Char) : Option (List Char) :=
  if word.isPrefixOf key then
    match key.drop word.length with
    | [] => some []
    | c :: cs => if Text.isBlank c then some (Text.trim (c :: cs)) else none
  else none

def clauseWord (key : List Char) : Option (Kind × List Char) :=
  ((afterWord ['o', 'n'] key).map (Kind.host, ·)).or <|
    ((afterWord ['t', 'o'] key).map (Kind.target, ·)).or <|
      (afterWord ['f', 'o', 'r'] key).map (Kind.platform, ·)

def isReserved (key : String) : Bool :=
  key == tryWord || key == elseWord || (clauseWord key.toList).isSome

/-- The head that `word rest` stands for. A host clause with `to` between two lists looks at both
architectures. -/
def readHead (key : String) (k : Kind) (rest : List Char) : Except Malformed Head :=
  let list (k : Kind) (cs : List Char) : Except Malformed Selectors :=
    (Selectors.parse cs).mapError fun e => .clause key k (.selectors e)
  match k with
  | .host =>
    match Text.words rest with
    | [ss, ['t', 'o'], ts] => do
      let ss ← list .hostTarget ss
      let ts ← list .hostTarget ts
      return .hostTarget ss ts
    | _ => .host <$> list .host rest
  | .target => .target <$> list .target rest
  | _ =>
    if rest = [] then .error (.clause key .platform (.selectors .missing))
    else if rest.any Text.isBlank then .error (.clause key .platform .spaces)
    else if ',' ∈ rest then .error (.clause key .platform .several)
    else .platform <$> list .platform rest

def classify (key : String) : Except Malformed Key :=
  if key = tryWord then .ok (.clause .attempt)
  else if key = elseWord then .ok .otherwise
  else match clauseWord key.toList with
    | none => .ok .plain
    | some (k, rest) => .clause <$> readHead key k rest

end Recipe.Clause
