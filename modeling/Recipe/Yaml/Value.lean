import Recipe.Value
import Recipe.Yaml.Schema

namespace Recipe.Yaml

inductive Unsupported
  | number : String → Unsupported
  | key : Node → Unsupported
  | alias
  | bad
  deriving DecidableEq

def Unsupported.message : Unsupported → String
  | .number s => s!"'{s}' is not a valid number"
  | .key n => s!"mapping keys must be strings, got {n.text}"
  | .alias => "aliases are not supported"
  | .bad => "bad value"

namespace Node

def key : Node → Except Unsupported String
  | .string s => .ok s
  | n => .error (.key n)

mutual

def toValue : Node → Except Unsupported Value
  | .null => .ok .unset
  | .bool b => .ok (.bool b)
  | .integer i => .ok (.integer i)
  | .real s =>
    match readReal s with
    | some x => .ok (.float x)
    | none => .error (.number s)
  | .string s => .ok (.string s)
  | .array ns => return .sequence (← toValues ns)
  | .hash es => return .mapping (← toEntries es)
  | .alias _ => .error .alias
  | .bad => .error .bad

def toValues : List Node → Except Unsupported (List Value)
  | [] => return []
  | n :: ns => return (← n.toValue) :: (← toValues ns)

def toEntries : List (Node × Node) → Except Unsupported (Entries Value)
  | [] => return []
  | (k, v) :: es => return (← k.key, ← v.toValue) :: (← toEntries es)

end

end Node

end Recipe.Yaml
