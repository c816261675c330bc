import Recipe.Command.Arguments
import Recipe.Environment
import Recipe.Evaluation
import Recipe.Options

namespace Recipe.Command

structure GrammarArguments where
  variant : Variant := .only .archPair
  architectures : List String := []
  platforms : List String := []

def GrammarArguments.options (g : GrammarArguments) : Options where
  variant := g.variant
  architectures := if g.architectures = [] then none else some g.architectures
  platforms := if g.platforms = [] then none else some g.platforms

structure EvalArguments where
  env : Environment
  grammar : GrammarArguments := {}
  key : Option String := none
  shape : Option Shape := none
  leaf : LeafType := .any
  required : Bool := false
  indented : Bool := false

inductive Request
  | version
  | evaluate : (file : String) → EvalArguments → Request
  | check : (file : String) → GrammarArguments → Request

def variants : List (String × Variant) :=
  [("arch-pair", .only .archPair), ("platform", .only .platform), ("detect", .detect)]

def shapes : List (String × Shape) := [("scalar", .scalar), ("list", .list), ("mapping", .mapping)]

def leafTypes : List (String × LeafType) :=
  [("string", .string), ("integer", .integer), ("float", .float), ("bool", .bool),
    ("mapping", .mapping), ("single-entry-mapping", .singleEntryMapping), ("any", .any)]

def grammarTable : OptionTable :=
  [("variant", .value), ("valid-arch", .value), ("valid-platform", .value)]

def evalTable : OptionTable :=
  grammarTable ++ [("host-arch", .value), ("target-arch", .value), ("platform", .value),
    ("key", .value), ("shape", .value), ("type", .value), ("required", .nothing),
    ("pretty", .nothing)]

def GrammarArguments.read (a : Arguments) : Option GrammarArguments := do
  let variant ← a.choice? "variant" variants
  return ⟨variant.getD (.only .archPair), a.values "valid-arch", a.values "valid-platform"⟩

def EvalArguments.read (a : Arguments) : Option EvalArguments := do
  let host ← (← a.value? "host-arch")
  let target ← a.value? "target-arch"
  let platform ← a.value? "platform"
  let native := Environment.native host
  return {
    env := { native with
      targetArch := target.getD native.targetArch
      platform := platform.getD native.platform }
    grammar := ← GrammarArguments.read a
    key := ← a.value? "key"
    shape := ← a.choice? "shape" shapes
    leaf := (← a.choice? "type" leafTypes).getD .any
    required := ← a.flag? "required"
    indented := ← a.flag? "pretty" }

namespace Request

def read : List String → Option Request
  | "eval" :: ws => do
    let a ← Arguments.read evalTable ws
    return .evaluate (← a.only?) (← EvalArguments.read a)
  | "check" :: ws => do
    let a ← Arguments.read grammarTable ws
    return .check (← a.only?) (← GrammarArguments.read a)
  | w :: _ => if w = "--version" ∨ w.startsWith "-V" then some .version else none
  | [] => none

def file? : Request → Option String
  | .version => none
  | .evaluate file _ | .check file _ => some file

end Request

end Recipe.Command
