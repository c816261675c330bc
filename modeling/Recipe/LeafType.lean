import Recipe.Value
import Recipe.Decimal.Shortest

namespace Recipe

structure LeafRejection where
  expected : String
  deriving DecidableEq

def LeafRejection.message (r : LeafRejection) : String := s!"expected {r.expected}"

abbrev Validator := Value → Except LeafRejection Value

inductive LeafType
  | string
  | integer
  | float
  | bool
  | mapping
  | singleEntryMapping
  | any
  deriving DecidableEq

namespace LeafType

def expected : LeafType → String
  | .string => "a string"
  | .integer => "an integer"
  | .float => "a number"
  | .bool => "a boolean"
  | .mapping => "a mapping"
  | .singleEntryMapping => "a mapping with a single key"
  | .any => "a value"

def floatLayout : Decimal.Layout where
  tie := .up
  positional := none
  whole := ""
  nan := "NaN"
  infinity := "inf"
  negativeInfinity := "-inf"

/-- The accepted form of a value: numbers become strings where a string is wanted, and integers become
floats where a float is. -/
def accept? : LeafType → Value → Option Value
  | .string, .scalar (.string s) => some (.string s)
  | .string, .scalar (.integer i) => some (.string (String.ofList (Decimal.intDigits i.toInt)))
  | .string, .scalar (.float x) => some (.string (floatLayout.text x))
  | .integer, .scalar (.integer i) => some (.integer i)
  | .float, .scalar (.float x) => some (.float x)
  | .float, .scalar (.integer i) => some (.float (.ofInt i.toInt))
  | .bool, .scalar (.bool b) => some (.bool b)
  | .mapping, .mapping es => some (.mapping es)
  | .singleEntryMapping, .mapping [e] => some (.mapping [e])
  | .any, .scalar s => some (.scalar s)
  | .any, .sequence vs => some (.sequence vs)
  | .any, .mapping es => some (.mapping es)
  | _, _ => none

def check (t : LeafType) : Validator := fun v =>
  match t.accept? v with
  | some w => .ok w
  | none => .error ⟨t.expected⟩

end LeafType

end Recipe
