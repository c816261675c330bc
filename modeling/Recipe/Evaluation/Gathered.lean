import Recipe.Error

/-! What an alternation has gathered so far. The first contribution decides how the rest is combined:
lists are joined, and of two mappings with one key the first wins. -/

namespace Recipe

inductive Gathered
  | nothing
  | list : List Value → Gathered
  | mapping : Entries Value → Gathered

/-- What a statement adds to a list. The sequence a clause yields is spliced in. -/
def Value.contribution (ofClause : Bool) : Value → List Value
  | .sequence vs => if ofClause then vs else [.sequence vs]
  | v => [v]

namespace Gathered

def value : Gathered → Value
  | .nothing => .unset
  | .list vs => .sequence vs
  | .mapping es => .mapping es

def add (asList ofClause : Bool) (v : Value) : Gathered → Except GrammarError Gathered
  | .list vs => .ok (.list (vs ++ v.contribution ofClause))
  | .mapping es =>
    match v with
    | .mapping fs => .ok (.mapping (Entries.union es fs))
    | v => .error (.mismatch "a mapping" v)
  | .nothing =>
    match v with
    | .mapping es => .ok (if asList then .list [v] else .mapping es)
    | v => .ok (.list (v.contribution ofClause))

def settles (asList : Bool) (v : Value) : Gathered → Bool
  | .nothing => v.isScalar && !asList
  | _ => false

end Gathered

end Recipe
