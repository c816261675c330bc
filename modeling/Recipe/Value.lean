import Recipe.Entries
import Recipe.Binary64

namespace Recipe

inductive Scalar
  | string : String → Scalar
  | integer : Int64 → Scalar
  | float : Binary64 → Scalar
  | bool : Bool → Scalar
  deriving DecidableEq

/-- What a recipe is written in, and what resolving it yields. `unset` is the absence of a value. -/
inductive Value
  | unset
  | scalar : Scalar → Value
  | sequence : List Value → Value
  | mapping : List (String × Value) → Value

namespace Value

abbrev string (s : String) : Value := .scalar (.string s)
abbrev integer (i : Int64) : Value := .scalar (.integer i)
abbrev float (x : Binary64) : Value := .scalar (.float x)
abbrev bool (b : Bool) : Value := .scalar (.bool b)

mutual

def decEq : (v w : Value) → Decidable (v = w)
  | .unset, .unset => isTrue rfl
  | .scalar a, .scalar b =>
    if h : a = b then isTrue (by rw [h]) else isFalse (by simp [h])
  | .sequence vs, .sequence ws =>
    match decEqList vs ws with
    | isTrue h => isTrue (by rw [h])
    | isFalse h => isFalse (by simp [h])
  | .mapping es, .mapping fs =>
    match decEqEntries es fs with
    | isTrue h => isTrue (by rw [h])
    | isFalse h => isFalse (by simp [h])
  | .unset, .scalar _ | .unset, .sequence _ | .unset, .mapping _
  | .scalar _, .unset | .scalar _, .sequence _ | .scalar _, .mapping _
  | .sequence _, .unset | .sequence _, .scalar _ | .sequence _, .mapping _
  | .mapping _, .unset | .mapping _, .scalar _ | .mapping _, .sequence _ => isFalse (by simp)

def decEqList : (vs ws : List Value) → Decidable (vs = ws)
  | [], [] => isTrue rfl
  | [], _ :: _ | _ :: _, [] => isFalse (by simp)
  | v :: vs, w :: ws =>
    match decEq v w, decEqList vs ws with
    | isTrue h, isTrue hs => isTrue (by rw [h, hs])
    | isFalse h, _ => isFalse (by simp [h])
    | _, isFalse hs => isFalse (by simp [hs])

def decEqEntries : (es fs : List (String × Value)) → Decidable (es = fs)
  | [], [] => isTrue rfl
  | [], _ :: _ | _ :: _, [] => isFalse (by simp)
  | (k, v) :: es, (l, w) :: fs =>
    match decEq v w, decEqEntries es fs with
    | isTrue h, isTrue hs => if hk : k = l then isTrue (by rw [hk, h, hs]) else isFalse (by simp [hk])
    | isFalse h, _ => isFalse (by simp [h])
    | _, isFalse hs => isFalse (by simp [hs])

end

instance : DecidableEq Value := decEq

def isUnset (v : Value) : Bool := v matches .unset

def isScalar (v : Value) : Bool := v matches .scalar _

def isSequence (v : Value) : Bool := v matches .sequence _

def isMapping (v : Value) : Bool := v matches .mapping _

def string? : Value → Option String
  | .scalar (.string s) => some s
  | _ => none

def sequence? : Value → Option (List Value)
  | .sequence vs => some vs
  | _ => none

def mapping? : Value → Option (Entries Value)
  | .mapping es => some es
  | _ => none

def field (v : Value) (k : String) : Value := (v.mapping?.bind (·.get? k)).getD .unset

def typeName : Value → String
  | .scalar (.string _) => "string"
  | .scalar (.integer _) => "integer"
  | .scalar (.float _) => "float"
  | .scalar (.bool _) => "bool"
  | .sequence _ => "sequence"
  | .mapping _ => "mapping"
  | .unset => "unset"

mutual

def scalars : Value → List Scalar
  | .unset => []
  | .scalar s => [s]
  | .sequence vs => scalarsList vs
  | .mapping es => scalarsEntries es

def scalarsList : List Value → List Scalar
  | [] => []
  | v :: vs => v.scalars ++ scalarsList vs

def scalarsEntries : List (String × Value) → List Scalar
  | [] => []
  | (_, v) :: es => v.scalars ++ scalarsEntries es

end

mutual

def nesting : Value → Nat
  | .unset | .scalar _ => 0
  | .sequence vs => nestingList vs
  | .mapping es => nestingEntries es

def nestingList : List Value → Nat
  | [] => 0
  | v :: vs => max (v.nesting + 1) (nestingList vs)

def nestingEntries : List (String × Value) → Nat
  | [] => 0
  | (_, v) :: es => max (v.nesting + 1) (nestingEntries es)

end

end Value

def Scalar.equal : Scalar → Scalar → Bool
  | .float x, .float y => x.equal y
  | a, b => a == b

mutual

def Value.equal : Value → Value → Bool
  | .unset, .unset => true
  | .scalar a, .scalar b => a.equal b
  | .sequence vs, .sequence ws => Value.equalList vs ws
  | .mapping es, .mapping fs => es.length == fs.length && Value.equalEntries es fs
  | _, _ => false

def Value.equalList : List Value → List Value → Bool
  | [], [] => true
  | v :: vs, w :: ws => v.equal w && Value.equalList vs ws
  | _, _ => false

def Value.equalEntries : List (String × Value) → List (String × Value) → Bool
  | [], _ => true
  | (k, v) :: es, fs =>
    (match Entries.get? fs k with
      | some w => v.equal w
      | none => false) && Value.equalEntries es fs

end

end Recipe
