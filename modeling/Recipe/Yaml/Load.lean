import Recipe.Yaml.Document
import Recipe.Yaml.Value

namespace Recipe.Yaml

inductive LoadError
  | text : Error → LoadError
  | node : Unsupported → LoadError
  deriving DecidableEq

def LoadError.message : LoadError → String
  | .text e => e.message
  | .node u => s!"Invalid YAML structure: {u.message}"

def Node.firstValue (ns : List Node) : Except Unsupported Value :=
  (toValues ns).map fun vs => vs.head?.getD .unset

def loadAll (text : String) : Except LoadError (List Value) := do
  let ns ← (documents text).mapError .text
  (Node.toValues ns).mapError .node

def load (text : String) : Except LoadError Value := do
  let ns ← (documents text).mapError .text
  (Node.firstValue ns).mapError .node

end Recipe.Yaml
