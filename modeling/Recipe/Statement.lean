import Recipe.Clause.Head
import Recipe.Json.Render

namespace Recipe

open Clause (Head Kind)

mutual

/-- A literal, a clause with the branches tried in its place, an alternation, or a mapping with a clause
somewhere in its entries. -/
inductive Statement
  | leaf : Value → Statement
  | clause : Head → Statement → List Branch → Statement
  | sequence : List Statement → Statement
  | mapping : List (String × Statement) → Statement

inductive Branch
  | body : Statement → Branch
  | fail

end

namespace Statement

def head? : Statement → Option Head
  | .clause h _ _ => some h
  | .leaf _ | .sequence _ | .mapping _ => none

def kind? (s : Statement) : Option Kind := s.head?.map Head.kind

def isClause (s : Statement) : Bool := s.head?.isSome

def body? : Statement → Option Statement
  | .clause _ b _ => some b
  | .leaf _ | .sequence _ | .mapping _ => none

def branches? : Statement → Option (List Branch)
  | .clause _ _ bs => some bs
  | .leaf _ | .sequence _ | .mapping _ => none

def sameClause (s t : Statement) : Bool :=
  match s.head?, t.head? with
  | some a, some b => a.same b
  | _, _ => false

def text : Statement → String
  | .leaf v => v.render
  | .clause h _ _ => h.text
  | .sequence ss => s!"[{ss.length} statements]"
  | .mapping es => "\x7b" ++ toString es.length ++ " keys\x7d"

mutual

def hasClause : Statement → Bool
  | .leaf _ => false
  | .clause .. => true
  | .sequence ss => hasClauseList ss
  | .mapping es => hasClauseEntries es

def hasClauseList : List Statement → Bool
  | [] => false
  | s :: ss => s.hasClause || hasClauseList ss

def hasClauseEntries : List (String × Statement) → Bool
  | [] => false
  | (_, s) :: es => s.hasClause || hasClauseEntries es

end

mutual

/-- Equality that compares floats as numbers and mappings as sets of entries. -/
def equal : Statement → Statement → Bool
  | .leaf v, .leaf w => v.equal w
  | .clause a s as, .clause b t bs => a == b && s.equal t && equalBranches as bs
  | .sequence ss, .sequence ts => equalList ss ts
  | .mapping es, .mapping fs => es.length == fs.length && equalEntries es fs
  | _, _ => false

def equalBranches : List Branch → List Branch → Bool
  | [], [] => true
  | .fail :: as, .fail :: bs => equalBranches as bs
  | .body s :: as, .body t :: bs => s.equal t && equalBranches as bs
  | _, _ => false

def equalList : List Statement → List Statement → Bool
  | [], [] => true
  | s :: ss, t :: ts => s.equal t && equalList ss ts
  | _, _ => false

def equalEntries : List (String × Statement) → List (String × Statement) → Bool
  | [], _ => true
  | (k, s) :: es, fs =>
    (match Entries.get? fs k with
      | some t => s.equal t
      | none => false) && equalEntries es fs

end

end Statement

end Recipe
