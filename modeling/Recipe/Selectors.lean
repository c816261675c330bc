import Recipe.Text.Blank

namespace Recipe

/-- Tokens in increasing order, none twice. -/
structure Selectors where
  tokens : List String
  sorted : tokens.Pairwise (· < ·)
  deriving DecidableEq

inductive SelectorError
  | missing
  | whitespace
  | emptyToken
  | duplicate : String → SelectorError
  | otherCombined
  deriving DecidableEq

namespace Selectors

def other : String := "other"

def any : String := "any"

def insertToken (s : String) : List String → List String
  | [] => [s]
  | t :: ts => if s < t then s :: t :: ts else if s = t then t :: ts else t :: insertToken s ts

theorem mem_insertToken {s t : String} {ts : List String} :
    t ∈ insertToken s ts ↔ t = s ∨ t ∈ ts := by
  induction ts with
  | nil => simp [insertToken]
  | cons u us ih =>
    simp only [insertToken]
    split
    · simp
    · split
      · rename_i h; subst h; simp
      · simp only [List.mem_cons, ih]
        constructor
        · rintro (h | h | h) <;> simp [h]
        · rintro (h | h | h) <;> simp [h]

theorem sorted_insertToken {s : String} {ts : List String} (h : ts.Pairwise (· < ·)) :
    (insertToken s ts).Pairwise (· < ·) := by
  induction ts with
  | nil => simp [insertToken]
  | cons t ts ih =>
    rw [List.pairwise_cons] at h
    simp only [insertToken]
    split
    · rename_i hst
      refine List.pairwise_cons.2 ⟨?_, List.pairwise_cons.2 h⟩
      intro u hu
      rcases List.mem_cons.1 hu with rfl | hu
      · exact hst
      · exact String.lt_trans hst (h.1 u hu)
    · split
      · exact List.pairwise_cons.2 h
      · rename_i hlt hne
        refine List.pairwise_cons.2 ⟨?_, ih h.2⟩
        intro u hu
        rcases mem_insertToken.1 hu with rfl | hu
        · exact Std.lt_of_le_of_ne (String.not_lt.1 hlt) (Ne.symm hne)
        · exact h.1 u hu

def empty : Selectors := ⟨[], .nil⟩

def insert (s : String) (ss : Selectors) : Selectors :=
  ⟨insertToken s ss.tokens, sorted_insertToken ss.sorted⟩

instance : Membership String Selectors := ⟨fun ss s => s ∈ ss.tokens⟩

instance (s : String) (ss : Selectors) : Decidable (s ∈ ss) :=
  inferInstanceAs (Decidable (s ∈ ss.tokens))

@[simp] theorem mem_insert {s t : String} {ss : Selectors} : t ∈ ss.insert s ↔ t = s ∨ t ∈ ss :=
  mem_insertToken

@[simp] theorem not_mem_empty {s : String} : ¬ s ∈ empty := by
  intro h; cases h

def ofList (ts : List String) : Selectors := ts.foldl (fun ss s => ss.insert s) empty

def extend (ss : Selectors) : List String → Except SelectorError Selectors
  | [] => .ok ss
  | t :: ts =>
    if t = "" then .error .emptyToken
    else if t ∈ ss then .error (.duplicate t)
    else (ss.insert t).extend ts

def parse (raw : List Char) : Except SelectorError Selectors :=
  let raw := Text.trim raw
  if raw = [] then .error .missing
  else if raw.any Text.isBlank then .error .whitespace
  else do
    let ss ← empty.extend ((Text.pieces (· == ',') raw).map String.ofList)
    if 1 < ss.tokens.length ∧ other ∈ ss then .error .otherCombined else .ok ss

def text (ss : Selectors) : String := ",".intercalate ss.tokens

def isOther (ss : Selectors) : Bool := ss.tokens == [other]

def hasAny (ss : Selectors) : Bool := any ∈ ss

def isWildcard (ss : Selectors) : Bool := ss.isOther || ss.hasAny

def named (ss : Selectors) : List String := ss.tokens.filter fun s => s ≠ other ∧ s ≠ any

def names (ss : Selectors) (s : String) : Bool := s ≠ other ∧ s ≠ any ∧ s ∈ ss

end Selectors

def SelectorError.message : SelectorError → String
  | .missing => "selectors are missing"
  | .whitespace => "spaces are not allowed in the selectors"
  | .emptyToken => "empty selector in list"
  | .duplicate s => s!"duplicate selector '{s}'"
  | .otherCombined => s!"'{Selectors.other}' cannot be combined with other selectors"

end Recipe
