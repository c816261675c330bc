import Recipe.Environment
import Recipe.Selectors

namespace Recipe

namespace Clause

inductive Kind
  | host
  | target
  | hostTarget
  | platform
  | attempt
  deriving DecidableEq

namespace Kind

def words : Kind → String
  | .host => "on"
  | .target => "to"
  | .hostTarget => "on ... to"
  | .platform => "for"
  | .attempt => "try"

def selectorNoun : Kind → String
  | .platform => "platform name"
  | _ => "architecture"

def subjectName : Kind → String
  | .host => "host architecture"
  | .target => "target architecture"
  | .hostTarget => "host and target architecture"
  | .platform => "platform"
  | .attempt => "nothing"

def subject? (env : Environment) : Kind → Option String
  | .host => some env.hostArch
  | .target => some env.targetArch
  | .platform => some env.platform
  | .hostTarget | .attempt => none

end Kind

/-- A clause without its body: `on`, `to`, `on … to`, `for` and `try`. -/
inductive Head
  | host : Selectors → Head
  | target : Selectors → Head
  | hostTarget : Selectors → Selectors → Head
  | platform : Selectors → Head
  | attempt
  deriving DecidableEq

namespace Head

def kind : Head → Kind
  | .host _ => .host
  | .target _ => .target
  | .hostTarget .. => .hostTarget
  | .platform _ => .platform
  | .attempt => .attempt

def selectors? : Head → Option Selectors
  | .host ss | .target ss | .platform ss => some ss
  | .hostTarget .. | .attempt => none

def text : Head → String
  | .host ss => s!"on {ss.text}"
  | .target ss => s!"to {ss.text}"
  | .hostTarget ss ts => s!"on {ss.text} to {ts.text}"
  | .platform ss => s!"for {ss.text}"
  | .attempt => "try"

/-- Two clauses of one kind with the same selectors, which should be one. No two `try` clauses are. -/
def same (a b : Head) : Bool := a = b ∧ a ≠ .attempt

end Head

end Clause

end Recipe
