import Recipe.Proofs.Statement.ParseSimilar

namespace Recipe

namespace Value

mutual

def Sorted (p : List (String × Value) → Bool) : Value → Prop
  | .unset | .scalar _ => True
  | .sequence vs => SortedList p vs
  | .mapping es => (p es → (Entries.keys es).Pairwise (· < ·)) ∧ SortedEntries p es

def SortedList (p : List (String × Value) → Bool) : List Value → Prop
  | [] => True
  | v :: vs => v.Sorted p ∧ SortedList p vs

def SortedEntries (p : List (String × Value) → Bool) : List (String × Value) → Prop
  | [] => True
  | (_, v) :: es => v.Sorted p ∧ SortedEntries p es

end

def ClausesSorted (v : Value) : Prop := v.Sorted hasReserved

/-- Mappings with grammar in them, at any depth, list their keys in order. -/
def GrammarSorted (v : Value) : Prop := v.Sorted fun es => !(mapping es).plain

mutual

def hasTry : Value → Bool
  | .unset | .scalar _ => false
  | .sequence vs => hasTryList vs
  | .mapping es => decide (Clause.tryWord ∈ Entries.keys es) || hasTryEntries es

def hasTryList : List Value → Bool
  | [] => false
  | v :: vs => v.hasTry || hasTryList vs

def hasTryEntries : List (String × Value) → Bool
  | [] => false
  | (_, v) :: es => v.hasTry || hasTryEntries es

end

theorem sort_sortKeysEntries {es : List (String × Value)} (h : (Entries.keys es).Pairwise (· < ·)) :
    Entries.sort (sortKeysEntries es) = sortKeysEntries es :=
  Entries.sort_eq_self (keys_sortKeysEntries es ▸ h)

def Spares (L : Leniency) (p : List (String × Value) → Bool) : Prop :=
  ∀ es, p es = false → (mapping es).plain ∨ L.unordered ∧ hasReserved es = false

variable {L : Leniency} {p : List (String × Value) → Bool}

mutual

theorem reordered_sortKeys (hp : Spares L p) : ∀ v : Value, v.Distinct → v.Sorted p →
    (L.tries ∨ v.hasTry = false) → v.Reordered L v.sortKeys
  | .unset, _, _, _ => .plain rfl .unset
  | .scalar _, _, _, _ => .plain rfl .scalar
  | .sequence vs, hd, hs, ht => .sequence (reorderedList_sortKeys hp vs hd hs ht)
  | .mapping es, hd, hs, ht => by
    rw [hasTry, Bool.or_eq_false_iff, decide_eq_false_iff_not] at ht
    have hes := reorderedEntries_sortKeys hp es hd.2 hs.2 (ht.imp_right And.right)
    rw [sortKeys]
    cases he : p es with
    | true =>
      rw [sort_sortKeysEntries (hs.1 he)]
      exact .mapping (fun hm => ht.resolve_right fun h => h.1 hm) hes
    | false =>
      -- a mapping that is not in order is data, or its entries are free to be in another order
      rcases hp es he with he | ⟨hu, hr⟩
      · exact .plain he (similar_sortKeys (.mapping es) hd)
      · exact .unordered hu hr hes (Entries.sort_perm (keys_sortKeysEntries es ▸ hd.1)).symm

theorem reorderedList_sortKeys (hp : Spares L p) : ∀ vs : List Value, DistinctList vs →
    SortedList p vs → (L.tries ∨ hasTryList vs = false) → ReorderedList L vs (sortKeysList vs)
  | [], _, _, _ => .nil
  | v :: vs, hd, hs, ht => by
    rw [hasTryList, Bool.or_eq_false_iff] at ht
    exact .cons (reordered_sortKeys hp v hd.1 hs.1 (ht.imp_right And.left))
      (reorderedList_sortKeys hp vs hd.2 hs.2 (ht.imp_right And.right))

theorem reorderedEntries_sortKeys (hp : Spares L p) : ∀ es : List (String × Value),
    DistinctEntries es → SortedEntries p es → (L.tries ∨ hasTryEntries es = false) →
      ReorderedEntries L es (sortKeysEntries es)
  | [], _, _, _ => .nil
  | (_, v) :: es, hd, hs, ht => by
    rw [hasTryEntries, Bool.or_eq_false_iff] at ht
    exact .cons (reordered_sortKeys hp v hd.1 hs.1 (ht.imp_right And.left))
      (reorderedEntries_sortKeys hp es hd.2 hs.2 (ht.imp_right And.right))

end

theorem GrammarSorted.reordered {v : Value} (h : v.GrammarSorted) (hd : v.Distinct) :
    v.Reordered .strict v.sortKeys := by
  apply reordered_sortKeys _ v hd h (.inl trivial)
  intro es he
  exact .inl (by simpa using he)

theorem ClausesSorted.reordered {v : Value} (h : v.ClausesSorted) (hd : v.Distinct) :
    v.Reordered .lenient v.sortKeys := by
  apply reordered_sortKeys _ v hd h (.inl trivial)
  intro es he
  exact .inr ⟨trivial, he⟩

theorem ClausesSorted.reordered_tryless {v : Value} (h : v.ClausesSorted) (hd : v.Distinct)
    (ht : v.hasTry = false) : v.Reordered .tryless v.sortKeys := by
  apply reordered_sortKeys _ v hd h (.inr ht)
  intro es he
  exact .inr ⟨trivial, he⟩

end Value

end Recipe
