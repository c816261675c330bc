import Recipe.Clause.Key
import Recipe.Options
import Recipe.Statement.Alternation

/-! The statement a value stands for. A mapping with a reserved key is a run of clauses, which inside a
sequence join the clauses around them; other mappings and all scalars are literals. -/

namespace Recipe

open Clause (Head Kind Key classify elseFail isReserved)

abbrev Parse := StateT Guard (Except GrammarError)

namespace Parse

def ofMalformed (x : Except Malformed α) : Parse α := liftM (x.mapError GrammarError.malformed)

def meet (f : Family) (construct : String) : Parse Unit := fun g =>
  match g.meet f with
  | .ok g => .ok ((), g)
  | .error e => .error (.malformed (.family construct e))

def within (o : Options) (depth : Nat) : Parse Unit :=
  if o.maxDepth < depth then throw (.malformed (.depth o.maxDepth)) else pure ()

end Parse

def Clause.Kind.family : Kind → Family
  | .platform => .platform
  | _ => .archPair

def hasReserved (es : List (String × Value)) : Bool := es.any fun e => isReserved e.1

/-- An `else` with nothing in it forbids to go on. -/
def isEmptyElse : Value → Bool
  | .unset | .sequence [] => true
  | _ => false

namespace Statement

mutual

def parseValue (o : Options) (depth : Nat) : Value → Parse Statement
  | .unset => do
    Parse.within o depth
    return .leaf .unset
  | .scalar s => do
    Parse.within o depth
    return .leaf (.scalar s)
  | .sequence vs => do
    Parse.within o depth
    let a ← parseItems o depth .empty vs
    return .sequence (← Parse.ofMalformed a.close)
  | .mapping es => do
    Parse.within o depth
    if hasReserved es then
      let a ← parseClauses o depth .empty es
      match ← Parse.ofMalformed a.close with
      | [s] => return s
      | ss => return .sequence ss
    else
      let parsed ← parseEntries o depth es
      return if hasClauseEntries parsed then .mapping parsed else .leaf (.mapping es)

def parseItems (o : Options) (depth : Nat) (a : Alternation) : List Value → Parse Alternation
  | [] => return a
  | .unset :: _ => throw (.malformed .null)
  | .scalar s :: vs => do
    if s = .string elseFail then
      Parse.meet .archPair elseFail
      parseItems o depth (← Parse.ofMalformed (a.branch .fail)) vs
    else
      let t ← parseValue o (depth + 1) (.scalar s)
      parseItems o depth (← Parse.ofMalformed (a.literal t)) vs
  | .sequence ws :: vs => do
    let t ← parseValue o (depth + 1) (.sequence ws)
    parseItems o depth (← Parse.ofMalformed (a.literal t)) vs
  | .mapping es :: vs => do
    if hasReserved es then
      parseItems o depth (← parseClauses o (depth + 1) a es) vs
    else
      let t ← parseValue o (depth + 1) (.mapping es)
      parseItems o depth (← Parse.ofMalformed (a.literal t)) vs

def parseClauses (o : Options) (depth : Nat) (a : Alternation) :
    List (String × Value) → Parse Alternation
  | [] => return a
  | (k, v) :: es => do
    match ← Parse.ofMalformed (classify k) with
    | .clause h =>
      Parse.meet h.kind.family h.kind.words
      liftM (o.checkHead k h)
      let b ← parseValue o (depth + 1) v
      parseClauses o depth (← Parse.ofMalformed (a.clause h b)) es
    | .otherwise =>
      if isEmptyElse v then
        parseClauses o depth (← Parse.ofMalformed (a.branch .fail)) es
      else
        let b ← parseValue o (depth + 1) v
        parseClauses o depth (← Parse.ofMalformed (a.branch (.body b))) es
    | .plain => throw (.malformed (.mixedKey k))

def parseEntries (o : Options) (depth : Nat) :
    List (String × Value) → Parse (List (String × Statement))
  | [] => return []
  | (k, v) :: es => do
    let s ← parseValue o (depth + 1) v
    return (k, s) :: (← parseEntries o depth es)

end

def parse (o : Options) (raw : Value) : Except GrammarError Statement :=
  (parseValue o 0 raw).run' o.variant.guard

end Statement

end Recipe
