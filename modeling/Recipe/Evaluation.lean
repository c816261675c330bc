import Recipe.Clause.Match
import Recipe.Evaluation.Gathered
import Recipe.LeafType
import Recipe.Statement

/-! The value of a statement in an environment. A clause yields the value of its body when it is
selected, and else that of its first branch with a value; an alternation combines what its statements
yield. -/

namespace Recipe

open Clause (Head)

inductive Shape
  | scalar
  | list
  | mapping
  deriving DecidableEq

/-- Changes a leaf, given the clauses whose bodies it stands in, outermost first. -/
abbrev Transformer := List Statement → Value → Environment → Value

structure Settings where
  env : Environment
  validator : Option Validator := none
  transformer : Option Transformer := none
  shape : Option Shape := none

namespace Settings

def asList (σ : Settings) : Bool := σ.shape == some .list

def inside (σ : Settings) : Settings := { σ with validator := none, shape := none }

def validate (σ : Settings) (v : Value) : Except GrammarError Value :=
  match σ.validator with
  | none => .ok v
  | some check => (check v).mapError fun r => .mismatch r.expected v

def leaf (σ : Settings) (path : List Statement) (v : Value) : Except GrammarError Value :=
  σ.validate (match σ.transformer with
    | none => v
    | some transform => transform path v σ.env)

end Settings

def Clause.Head.rival? (h : Head) (others : List Head) (env : Environment) : Option Head :=
  if h.selectedByName env then others.find? fun g => g.kind = h.kind ∧ g.selectedByName env else none

namespace Statement

def heads (ss : List Statement) : List Head := ss.filterMap head?

/-- An alternation that is empty or holds a literal is a list from the start. -/
def start (ss : List Statement) : Gathered :=
  if ss.isEmpty || !ss.all isClause then .list [] else .nothing

def settle (env : Environment) (s : Statement) (others : List Head) (v : Value) :
    Except GrammarError Value :=
  match s.head? with
  | none => .ok v
  | some h =>
    match h.rival? others env with
    | none => .ok v
    | some g => .error (.ambiguous h g ((h.kind.subject? env).getD ""))

mutual

def eval (σ : Settings) (path : List Statement) (siblings : List Head) :
    Statement → Except GrammarError Value
  | .leaf .unset => .ok .unset
  | .leaf v => σ.leaf path v
  | .sequence ss => evalItems σ path (heads ss) [] (start ss) ss
  | .mapping es => do σ.validate (.mapping (← evalEntries σ.inside path es))
  | .clause .attempt b bs =>
    match eval σ (path ++ [.clause .attempt b bs]) [] b with
    | .ok v => .ok v
    | .error e => if e.isMismatch then evalFallback σ path (some e) bs else .error e
  | .clause h b bs =>
    if h.selected siblings σ.env then eval σ (path ++ [.clause h b bs]) [] b
    else evalBranches σ path h bs
termination_by structural s => s

def evalBranches (σ : Settings) (path : List Statement) (h : Head) :
    List Branch → Except GrammarError Value
  | [] => .ok .unset
  | .fail :: _ => .error (.unsatisfied h)
  | .body s :: bs => do
    match ← eval σ path [] s with
    | .unset => evalBranches σ path h bs
    | v => .ok v
termination_by structural bs => bs

/-- The branches in place of a body that was rejected; `last` is the outcome if none of them serves. -/
def evalFallback (σ : Settings) (path : List Statement) (last : Option GrammarError) :
    List Branch → Except GrammarError Value
  | [] =>
    match last with
    | none => .ok .unset
    | some e => .error e
  | .fail :: _ => .error (.unsatisfied .attempt)
  | .body s :: bs =>
    match eval σ path [] s with
    | .ok .unset => evalFallback σ path none bs
    | .ok v => .ok v
    | .error e => if e.isMismatch then evalFallback σ path (some e) bs else .error e
termination_by structural bs => bs

def evalItems (σ : Settings) (path : List Statement) (siblings before : List Head) (g : Gathered) :
    List Statement → Except GrammarError Value
  | [] => .ok g.value
  | s :: ss => do
    let v ← eval σ path siblings s
    let passed := before ++ s.head?.toList
    if v.isUnset then evalItems σ path siblings passed g ss
    else if g.settles σ.asList v then settle σ.env s (before ++ heads ss) v
    else evalItems σ path siblings passed (← g.add σ.asList s.isClause v) ss
termination_by structural ss => ss

def evalEntries (σ : Settings) (path : List Statement) :
    List (String × Statement) → Except GrammarError (Entries Value)
  | [] => .ok []
  | (k, s) :: es => do
    let v ← eval σ path [] s
    let rest ← evalEntries σ path es
    return if v.isUnset then rest else (k, v) :: rest
termination_by structural es => es

end

def evaluate (σ : Settings) (s : Statement) : Except GrammarError Value := s.eval σ [] []

end Statement

end Recipe
