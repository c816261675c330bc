import Recipe.Evaluation
import Recipe.Statement.Parse

namespace Recipe

structure FieldSpec where
  name : String
  shape : Shape
  leaf : LeafType
  required : Bool := false

namespace FieldSpec

def mismatch (f : FieldSpec) (expected : String) (v : Value) : GrammarError :=
  .mismatch s!"{expected} for '{f.name}'" v

def merge (f : FieldSpec) (es : Entries Value) : List Value → Except GrammarError Value
  | [] => .ok (.mapping es)
  | .mapping fs :: vs => f.merge (es.union fs) vs
  | v :: _ => .error (f.mismatch "a mapping" v)

def normalize (f : FieldSpec) (v : Value) : Except GrammarError Value :=
  match f.shape, v with
  | shape, .unset =>
    if f.required then Value.required (some f.name) .unset
    else .ok (if shape = .list then .sequence [] else .unset)
  | .scalar, .sequence [w] => .ok w
  | .scalar, .scalar s => .ok (.scalar s)
  | .scalar, v => .error (f.mismatch "a single value" v)
  | .list, .sequence vs => .ok (.sequence vs)
  | .list, v => .ok (.sequence [v])
  | .mapping, .mapping es => .ok (.mapping es)
  | .mapping, .sequence vs => f.merge [] vs
  | .mapping, v => .error (f.mismatch "a mapping" v)

def settings (f : FieldSpec) (env : Environment) : Settings where
  env := env
  validator := some f.leaf.check
  shape := some f.shape

def resolve (f : FieldSpec) (env : Environment) (s : Statement) : Except GrammarError Value := do
  f.normalize (← s.evaluate (f.settings env))

def resolveRaw (f : FieldSpec) (o : Options) (env : Environment) (raw : Value) :
    Except GrammarError Value := do
  f.resolve env (← Statement.parse o raw)

end FieldSpec

end Recipe
