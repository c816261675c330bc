import Recipe.Error
import Recipe.Json.Read
import Recipe.Yaml.Load

namespace Recipe.Command

inductive ReadError
  | missing
  | directory
  | notDirectory
  | encoding
  | other : String → ReadError
  deriving DecidableEq

def ReadError.message : ReadError → String
  | .missing => "No such file or directory (os error 2)"
  | .notDirectory => "Not a directory (os error 20)"
  | .directory => "Is a directory (os error 21)"
  | .encoding => "stream did not contain valid UTF-8"
  | .other m => m

inductive Failure
  | read : (file : String) → ReadError → Failure
  | json : (file message : String) → Failure
  | yaml : (file : String) → Yaml.LoadError → Failure
  | grammar : (entry : String) → GrammarError → Failure
  | resolve : (entry : String) → GrammarError → Failure
  deriving DecidableEq

namespace Failure

def message : Failure → String
  | .read file _ => s!"failed to read {file}"
  | .json file _ => s!"failed to parse JSON from {file}"
  | .yaml file _ => s!"failed to parse YAML from {file}"
  | .grammar entry _ => s!"invalid grammar in '{entry}'"
  | .resolve entry _ => s!"failed to resolve '{entry}'"

def cause : Failure → String
  | .read _ e => e.message
  | .json _ m => m
  | .yaml _ e => e.message
  | .grammar _ e | .resolve _ e => e.message

def report (f : Failure) : String :=
  let lines := f.cause.toList.flatMap fun c => if c = '\n' then "\n    ".toList else [c]
  s!"Error: {f.message}\n\nCaused by:\n    {String.ofList lines}\n"

end Failure

def baseName? (file : String) : Option (List Char) :=
  ((Text.pieces (· == '/') file.toList).filter fun p => p ≠ [] ∧ p ≠ ['.']).getLast?

def extension? (file : String) : Option (List Char) := do
  let name ← baseName? file
  let ext := (name.reverse.takeWhile (· ≠ '.')).reverse
  if name ≠ ['.', '.'] ∧ ext.length + 1 < name.length then some ext else none

def isJson (file : String) : Bool :=
  (extension? file).any fun ext => ext.map Char.toLower == ['j', 's', 'o', 'n']

def document (file : String) (content : Except ReadError String) : Except Failure Value := do
  let text ← content.mapError (.read file)
  if isJson file then (Json.read text).mapError (.json file)
  else (Yaml.load text).mapError (.yaml file)

def documentName : String := "<document>"

/-- The fields of a document: the entries of a mapping, or the document itself. -/
def fields : Value → Entries Value
  | .mapping es => es
  | v => [(documentName, v)]

end Recipe.Command
