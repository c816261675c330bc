import Recipe.Statement

namespace Recipe

namespace Value

theorem scalarsList_append (vs ws : List Value) :
    scalarsList (vs ++ ws) = scalarsList vs ++ scalarsList ws := by
  induction vs with
  | nil => rfl
  | cons v vs ih => simp [scalarsList, ih]

theorem scalarsEntries_append (es fs : List (String × Value)) :
    scalarsEntries (es ++ fs) = scalarsEntries es ++ scalarsEntries fs := by
  induction es with
  | nil => rfl
  | cons e es ih => simp [scalarsEntries, ih]

theorem scalarsEntries_sublist {es fs : List (String × Value)} (h : es.Sublist fs) :
    (scalarsEntries es).Sublist (scalarsEntries fs) := by
  induction h with
  | slnil => exact .slnil
  | cons e _ ih => exact ih.trans (List.sublist_append_right e.2.scalars _)
  | cons_cons e _ ih => exact (List.Sublist.refl e.2.scalars).append ih

end Value

namespace Statement

mutual

def scalars : Statement → List Scalar
  | .leaf v => v.scalars
  | .clause _ b bs => b.scalars ++ scalarsBranches bs
  | .sequence ss => scalarsList ss
  | .mapping es => scalarsEntries es

def scalarsBranches : List Branch → List Scalar
  | [] => []
  | .fail :: bs => scalarsBranches bs
  | .body s :: bs => s.scalars ++ scalarsBranches bs

def scalarsList : List Statement → List Scalar
  | [] => []
  | s :: ss => s.scalars ++ scalarsList ss

def scalarsEntries : List (String × Statement) → List Scalar
  | [] => []
  | (_, s) :: es => s.scalars ++ scalarsEntries es

end

end Statement

end Recipe
