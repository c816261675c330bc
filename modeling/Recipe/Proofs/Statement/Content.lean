import Recipe.Proofs.Statement.Pieces
import Recipe.Proofs.Statement.Scalars

namespace Recipe

open Clause (Head elseFail)

namespace Value

mutual

def content : Value → List Scalar
  | .unset => []
  | .scalar s => [s]
  | .sequence vs => contentList vs
  | .mapping es => contentEntries es

def contentList : List Value → List Scalar
  | [] => []
  | v :: vs => if v = .string elseFail then contentList vs else v.content ++ contentList vs

def contentEntries : List (String × Value) → List Scalar
  | [] => []
  | (_, v) :: es => v.content ++ contentEntries es

end

theorem contentList_of_isLiteralItem {v : Value} (h : isLiteralItem v) (vs : List Value) :
    contentList (v :: vs) = v.content ++ contentList vs := by
  rw [contentList, if_neg]
  rintro rfl
  simp [isLiteralItem] at h

theorem contentList_mapping (es : List (String × Value)) (vs : List Value) :
    contentList (.mapping es :: vs) = contentEntries es ++ contentList vs := by
  rw [contentList, if_neg (by simp), content]

mutual

theorem content_of_plain : ∀ v : Value, v.plain → v.content = v.scalars
  | .unset, _ | .scalar _, _ => rfl
  | .sequence vs, h => contentList_of_plain vs h
  | .mapping es, h => by
    rw [plain, Bool.and_eq_true] at h
    exact contentEntries_of_plain es h.2

theorem contentList_of_plain : ∀ vs : List Value, plainList vs → contentList vs = scalarsList vs
  | [], _ => rfl
  | v :: vs, h => by
    rw [plainList, Bool.and_eq_true, Bool.and_eq_true] at h
    rw [contentList_of_isLiteralItem h.1.1, content_of_plain v h.1.2, contentList_of_plain vs h.2,
      scalarsList]

theorem contentEntries_of_plain : ∀ es : List (String × Value), plainEntries es →
    contentEntries es = scalarsEntries es
  | [], _ => rfl
  | (k, v) :: es, h => by
    rw [plainEntries, Bool.and_eq_true] at h
    rw [contentEntries, content_of_plain v h.1, contentEntries_of_plain es h.2, scalarsEntries]

end

theorem content_of_isEmptyElse {v : Value} (h : isEmptyElse v) : v.content = [] := by
  rcases isEmptyElse_iff.1 h with rfl | rfl <;> rfl

end Value

def Piece.scalars : Piece → List Scalar
  | .clause _ s | .literal s => s.scalars
  | .branch b => Statement.scalarsBranches [b]

namespace Statement

theorem scalarsBranches_eq (bs : List Branch) :
    scalarsBranches bs = (bs.map Piece.branch).flatMap Piece.scalars := by
  induction bs with
  | nil => rfl
  | cons b bs ih => cases b <;> simp [scalarsBranches, Piece.scalars, ih]

theorem scalars_eq_pieces (s : Statement) : s.scalars = s.pieces.flatMap Piece.scalars := by
  cases s with
  | clause h b bs => rw [scalars, scalarsBranches_eq, pieces, List.flatMap_cons, Piece.scalars]
  | leaf | sequence | mapping => exact (List.append_nil _).symm

theorem scalarsList_eq_pieces (ss : List Statement) :
    scalarsList ss = (ss.flatMap pieces).flatMap Piece.scalars := by
  induction ss with
  | nil => rfl
  | cons s ss ih => rw [scalarsList, ih, scalars_eq_pieces, List.flatMap_cons, List.flatMap_append]

end Statement

namespace Alternation

variable {a b : Alternation} {ss : List Statement}

def scalars (a : Alternation) : List Scalar := a.pieces.flatMap Piece.scalars

theorem scalars_of_close (h : a.close = .ok ss) : Statement.scalarsList ss = a.scalars := by
  rw [Statement.scalarsList_eq_pieces, pieces_of_close h, scalars]

theorem scalars_of_literal {t : Statement} (h : a.literal t = .ok b) (ht : t.head? = none) :
    b.scalars = a.scalars ++ t.scalars := by
  rw [scalars, pieces_of_literal h ht, List.flatMap_append, List.flatMap_singleton]
  rfl

theorem scalars_of_clause {h : Head} {t : Statement} (hc : a.clause h t = .ok b) :
    b.scalars = a.scalars ++ t.scalars := by
  rw [scalars, pieces_of_clause hc, List.flatMap_append, List.flatMap_singleton]
  rfl

theorem scalars_of_branch {br : Branch} (h : a.branch br = .ok b) :
    b.scalars = a.scalars ++ Statement.scalarsBranches [br] := by
  rw [scalars, pieces_of_branch h, List.flatMap_append, List.flatMap_singleton]
  rfl

end Alternation

namespace Statement

variable {o : Options}

mutual

theorem Reads.scalars_eq {d : Nat} {g : Guard} {v : Value} {t : Statement} {g' : Guard} :
    Reads o d g v t g' → t.scalars = v.content
  | .unset _ | .scalar _ => rfl
  | .sequence _ hi hc => by
    rw [scalars, Alternation.scalars_of_close hc, hi.scalars_eq]
    rfl
  | .single _ _ hi hc => by
    have h := Alternation.scalars_of_close hc
    rwa [scalarsList, scalarsList, List.append_nil, hi.scalars_eq] at h
  | .clauses _ _ hi hc _ => by
    rw [scalars, Alternation.scalars_of_close hc, hi.scalars_eq]
    rfl
  -- the leaf holds the value itself, which must not have an `else fail` among its items
  | .literal _ _ hi hc => by
    rw [hi.hasClause_eq] at hc
    exact (Value.contentEntries_of_plain _ (hi.plain hc)).symm
  | .mapping _ _ hi _ => hi.scalars_eq

theorem ReadsItems.scalars_eq {d : Nat} {a : Alternation} {g : Guard} {vs : List Value}
    {b : Alternation} {g' : Guard} :
    ReadsItems o d a g vs b g' → b.scalars = a.scalars ++ Value.contentList vs
  | .nil => (List.append_nil _).symm
  | .fail _ hb hi => by
    rw [hi.scalars_eq, Alternation.scalars_of_branch hb, scalarsBranches, scalarsBranches,
      List.append_nil, Value.contentList, if_pos rfl]
  | .literal hv ht hl hi => by
    rw [hi.scalars_eq, Alternation.scalars_of_literal hl (ht.literal_item hv).1, ht.scalars_eq,
      Value.contentList_of_isLiteralItem hv, List.append_assoc]
  | .clauses _ hc hi => by
    rw [hi.scalars_eq, hc.scalars_eq, Value.contentList_mapping, List.append_assoc]

theorem ReadsClauses.scalars_eq {d : Nat} {a : Alternation} {g : Guard}
    {es : List (String × Value)} {b : Alternation} {g' : Guard} :
    ReadsClauses o d a g es b g' → b.scalars = a.scalars ++ Value.contentEntries es
  | .nil => (List.append_nil _).symm
  | .clause _ _ _ hs hc hi => by
    rw [hi.scalars_eq, Alternation.scalars_of_clause hc, hs.scalars_eq, Value.contentEntries,
      List.append_assoc]
  | .fail _ he hb hi => by
    rw [hi.scalars_eq, Alternation.scalars_of_branch hb, Value.contentEntries,
      Value.content_of_isEmptyElse he, List.append_assoc]
    rfl
  | .body _ _ hs hb hi => by
    rw [hi.scalars_eq, Alternation.scalars_of_branch hb, scalarsBranches, scalarsBranches,
      List.append_nil, hs.scalars_eq, Value.contentEntries, List.append_assoc]

theorem ReadsEntries.scalars_eq {d : Nat} {g : Guard} {es : List (String × Value)}
    {fs : List (String × Statement)} {g' : Guard} :
    ReadsEntries o d g es fs g' → scalarsEntries fs = Value.contentEntries es
  | .nil => rfl
  | .cons hs hi => by rw [scalarsEntries, hs.scalars_eq, hi.scalars_eq, Value.contentEntries]

end

/-- The scalars of a recipe are all in the leaves of its tree, in the order they are written in. -/
theorem parse_scalars {raw : Value} {t : Statement} (h : parse o raw = .ok t) :
    t.scalars = raw.content := by
  obtain ⟨g, hr⟩ := parse_eq_ok_iff.1 h
  exact hr.scalars_eq

def chainedRecipe : Value :=
  .sequence [.string "a", .mapping [("on amd64", .string "else fail"), ("else", .sequence [.string "b"])],
    .mapping [("else", .unset)], .string "else fail",
    .mapping [("k", .mapping [("try", .integer 1), ("else", .integer 2)]), ("l", .string "else fail")]]

def chainedTree : Statement :=
  .sequence [.leaf (.string "a"),
    .clause (.host (.ofList ["amd64"])) (.leaf (.string "else fail"))
      [.body (.sequence [.leaf (.string "b")]), .fail, .fail],
    .mapping [("k", .clause .attempt (.leaf (.integer 1)) [.body (.leaf (.integer 2))]),
      ("l", .leaf (.string "else fail"))]]

theorem parse_scalars_chained :
    parse {} chainedRecipe = .ok chainedTree ∧ chainedTree.scalars = chainedRecipe.content ∧
      chainedRecipe.content = [.string "a", .string "else fail", .string "b", .integer 1, .integer 2,
        .string "else fail"] :=
  have h : parse {} chainedRecipe = .ok chainedTree := by cbv
  ⟨h, parse_scalars h, by decide⟩

end Statement

end Recipe
