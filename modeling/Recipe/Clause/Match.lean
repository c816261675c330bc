import Recipe.Clause.Head

/-! When a clause is selected. A named set is selected when it names the subject; `other` is when no
sibling of its kind does; `any` always is. -/

namespace Recipe

open Clause (Kind)

namespace Selectors

def claims (subject : String) (ss : Selectors) : Bool := !ss.isWildcard && ss.names subject

/-- Selection of a clause with one selector set among the sets of its siblings of the same kind, which
may list its own. -/
def selects (ss : Selectors) (siblings : List Selectors) (k : Kind) (env : Environment) : Bool :=
  match k.subject? env with
  | none => k == .attempt
  | some subject =>
    if k = .platform ∧ ss.hasAny then true
    else if ss.isOther then !siblings.any (claims subject)
    else ss.names subject

def selectsByName (ss : Selectors) (k : Kind) (env : Environment) : Bool :=
  match k.subject? env with
  | none => false
  | some subject => ss.claims subject

end Selectors

namespace Clause.Head

def selectorsOf (k : Kind) (h : Head) : Option Selectors :=
  if h.kind = k then h.selectors? else none

def selected (h : Head) (siblings : List Head) (env : Environment) : Bool :=
  match h with
  | .host ss => ss.selects (siblings.filterMap (selectorsOf .host)) .host env
  | .target ss => ss.selects (siblings.filterMap (selectorsOf .target)) .target env
  | .platform ss => ss.selects (siblings.filterMap (selectorsOf .platform)) .platform env
  | .hostTarget ss ts => ss.selects [] .host env && ts.selects [] .target env
  | .attempt => true

def selectedByName (h : Head) (env : Environment) : Bool :=
  match h.selectors? with
  | some ss => ss.selectsByName h.kind env
  | none => false

end Clause.Head

end Recipe
