import Recipe.Statement

namespace Recipe

open Clause (Head)

/-- A tree with a gap somewhere in it, at any depth: in the body of a clause, in one of its branches, in an
item of an alternation or in an entry of a mapping. -/
inductive Context
  | hole
  | body : Head → Context → List Branch → Context
  | branch : Head → Statement → List Branch → Context → List Branch → Context
  | item : List Statement → Context → List Statement → Context
  | entry : List (String × Statement) → String → Context → List (String × Statement) → Context

namespace Context

def fill (s : Statement) : Context → Statement
  | hole => s
  | body h c bs => .clause h (c.fill s) bs
  | branch h b before c after => .clause h b (before ++ .body (c.fill s) :: after)
  | item before c after => .sequence (before ++ c.fill s :: after)
  | entry before k c after => .mapping (before ++ (k, c.fill s) :: after)

end Context

namespace Statement

def PartOf (s t : Statement) : Prop := ∃ c : Context, c.fill s = t

namespace PartOf

theorem refl (s : Statement) : s.PartOf s := ⟨.hole, rfl⟩

variable {s t : Statement} (hs : s.PartOf t)

include hs

theorem body (h : Head) (bs : List Branch) : s.PartOf (.clause h t bs) := by
  obtain ⟨c, rfl⟩ := hs
  exact ⟨.body h c bs, rfl⟩

theorem branch (h : Head) (b : Statement) {bs : List Branch} (hb : .body t ∈ bs) :
    s.PartOf (.clause h b bs) := by
  obtain ⟨c, rfl⟩ := hs
  obtain ⟨before, after, rfl⟩ := List.append_of_mem hb
  exact ⟨.branch h b before c after, rfl⟩

theorem item {ss : List Statement} (ht : t ∈ ss) : s.PartOf (.sequence ss) := by
  obtain ⟨c, rfl⟩ := hs
  obtain ⟨before, after, rfl⟩ := List.append_of_mem ht
  exact ⟨.item before c after, rfl⟩

theorem entry {es : List (String × Statement)} {k : String} (ht : (k, t) ∈ es) :
    s.PartOf (.mapping es) := by
  obtain ⟨c, rfl⟩ := hs
  obtain ⟨before, after, rfl⟩ := List.append_of_mem ht
  exact ⟨.entry before k c after, rfl⟩

end PartOf

end Statement

end Recipe
