import Recipe.Statement
import Recipe.Error

/-! An alternation as it is put together: statements in order, and last perhaps a clause that `else`
branches may still join. -/

namespace Recipe

open Clause (Head)

structure OpenClause where
  head : Head
  body : Statement
  branches : List Branch

structure Alternation where
  statements : List Statement
  clause? : Option OpenClause

namespace Alternation

def empty : Alternation := ⟨[], none⟩

/-- Closes the open clause. A `try` needs a branch, and no clause may repeat one before it. -/
def close (a : Alternation) : Except Malformed (List Statement) :=
  match a.clause? with
  | none => .ok a.statements
  | some ⟨h, b, bs⟩ =>
    if h = .attempt ∧ bs.isEmpty then .error .bareTry
    else if a.statements.any (·.sameClause (.clause h b bs)) then .error (.duplicate h)
    else .ok (a.statements ++ [.clause h b bs])

def literal (s : Statement) (a : Alternation) : Except Malformed Alternation :=
  return ⟨(← a.close) ++ [s], none⟩

def clause (h : Head) (b : Statement) (a : Alternation) : Except Malformed Alternation :=
  return ⟨← a.close, some ⟨h, b, []⟩⟩

def branch (b : Branch) (a : Alternation) : Except Malformed Alternation :=
  match a.clause? with
  | none => .error .danglingElse
  | some c => .ok ⟨a.statements, some ⟨c.head, c.body, c.branches ++ [b]⟩⟩

end Alternation

end Recipe
