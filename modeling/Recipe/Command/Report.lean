import Recipe.Command.Document
import Recipe.Command.Request
import Recipe.Field

namespace Recipe.Command

namespace EvalArguments

/-- The value of a parsed field. Without a shape, its leaves are checked and nothing else. -/
def resolve (a : EvalArguments) (name : String) (s : Statement) : Except GrammarError Value :=
  match a.shape with
  | some shape => FieldSpec.resolve ⟨name, shape, a.leaf, a.required⟩ a.env s
  | none => do
    let v ← s.evaluate { env := a.env, validator := some a.leaf.check }
    if a.required then v.required (some name) else .ok v

def evaluateField (a : EvalArguments) (name : String) (raw : Value) : Except Failure Value := do
  let s ← (Statement.parse a.grammar.options raw).mapError (.grammar name)
  (a.resolve name s).mapError (.resolve name)

def evaluateFields (a : EvalArguments) : Entries Value → Except Failure (Entries Value)
  | [] => .ok []
  | (k, raw) :: es => do
    let v ← a.evaluateField k raw
    let rest ← evaluateFields a es
    return if v.isUnset then rest else (k, v) :: rest

def evaluateDocument (a : EvalArguments) : Value → Except Failure Value
  | .mapping es => .mapping <$> a.evaluateFields es
  | v => a.evaluateField documentName v

def evaluate (a : EvalArguments) (v : Value) : Except Failure Value :=
  match a.key with
  | some k => a.evaluateField k (v.field k)
  | none => a.evaluateDocument v

end EvalArguments

def GrammarArguments.failures (g : GrammarArguments) (v : Value) : List (String × GrammarError) :=
  (fields v).filterMap fun (k, raw) =>
    match Statement.parse g.options raw with
    | .ok _ => none
    | .error e => some (k, e)

structure Outcome where
  exit : Nat
  output : String := ""
  errors : String := ""

namespace Outcome

def ofFailure (f : Failure) : Outcome where
  exit := 1
  errors := f.report

def ofValue (indented : Bool) (v : Value) : Outcome where
  exit := 0
  output := (if indented then v.renderIndented else v.render) ++ "\n"

def ofFailures (file : String) (fs : List (String × GrammarError)) : Outcome :=
  match fs with
  | [] => { exit := 0, output := s!"{file}: ok\n" }
  | fs =>
    let lines := fs.map fun (k, e) => s!"{k}: [{e.code}] {e.message}\n"
    let entries := if fs.length = 1 then "entry" else "entries"
    let last := s!"Error: {fs.length} {entries} in {file} failed to parse\n"
    { exit := 1, errors := String.join lines ++ last }

end Outcome

def versionText : String := "craft-grammar 0.0.0\n"

def Request.answer (content : Except ReadError String) : Request → Outcome
  | .version => { exit := 0, output := versionText }
  | .evaluate file a =>
    match document file content >>= a.evaluate with
    | .ok v => .ofValue a.indented v
    | .error f => .ofFailure f
  | .check file g =>
    match document file content with
    | .ok v => .ofFailures file (g.failures v)
    | .error f => .ofFailure f

end Recipe.Command
