import Recipe.Error

namespace Recipe

open Clause (Head Kind)

def defaultMaxDepth : Nat := 64

structure Options where
  architectures : Option (List String) := none
  platforms : Option (List String) := none
  variant : Variant := .only .archPair
  maxDepth : Nat := defaultMaxDepth

namespace Options

def valid? (o : Options) : Kind → Option (List String)
  | .platform => o.platforms
  | _ => o.architectures

/-- `any` belongs to `for`, `other` to clauses with one selector set, and names must be valid. -/
def checkSelectors (o : Options) (key : String) (k : Kind) (ss : Selectors) :
    Except GrammarError Unit :=
  if k ≠ .platform ∧ ss.hasAny then .error (.malformed (.clause key k .any))
  else if k = .hostTarget ∧ ss.isOther then .error (.malformed (.clause key k .other))
  else match (o.valid? k).bind fun valid => ss.named.find? (· ∉ valid) with
    | some s => .error (.unknownSelector s k)
    | none => .ok ()

def checkHead (o : Options) (key : String) : Head → Except GrammarError Unit
  | .host ss => o.checkSelectors key .host ss
  | .target ss => o.checkSelectors key .target ss
  | .hostTarget ss ts => do
    o.checkSelectors key .hostTarget ss
    o.checkSelectors key .hostTarget ts
  | .platform ss => o.checkSelectors key .platform ss
  | .attempt => .ok ()

end Options

end Recipe
