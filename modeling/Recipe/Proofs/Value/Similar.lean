import Recipe.Error
import Recipe.Proofs.Json.Read

namespace Recipe

namespace Value

mutual

def Distinct : Value → Prop
  | .unset | .scalar _ => True
  | .sequence vs => DistinctList vs
  | .mapping es => (Entries.keys es).Nodup ∧ DistinctEntries es

def DistinctList : List Value → Prop
  | [] => True
  | v :: vs => v.Distinct ∧ DistinctList vs

def DistinctEntries : List (String × Value) → Prop
  | [] => True
  | (_, v) :: es => v.Distinct ∧ DistinctEntries es

end

theorem distinctList_iff {vs : List Value} : DistinctList vs ↔ ∀ v ∈ vs, v.Distinct := by
  induction vs with
  | nil => simp [DistinctList]
  | cons v vs ih => simp [DistinctList, ih]

theorem distinctEntries_iff {es : List (String × Value)} : DistinctEntries es ↔ ∀ e ∈ es, e.2.Distinct := by
  induction es with
  | nil => simp [DistinctEntries]
  | cons e es ih => simp [DistinctEntries, ih]

mutual

inductive Similar : Value → Value → Prop
  | unset : Similar .unset .unset
  | scalar : Similar (.scalar s) (.scalar s)
  | sequence : SimilarList vs ws → Similar (.sequence vs) (.sequence ws)
  | mapping : SimilarEntries es gs → gs.Perm fs → Similar (.mapping es) (.mapping fs)

inductive SimilarList : List Value → List Value → Prop
  | nil : SimilarList [] []
  | cons : Similar v w → SimilarList vs ws → SimilarList (v :: vs) (w :: ws)

inductive SimilarEntries : List (String × Value) → List (String × Value) → Prop
  | nil : SimilarEntries [] []
  | cons : Similar v w → SimilarEntries es fs → SimilarEntries ((k, v) :: es) ((k, w) :: fs)

end

mutual

theorem Similar.refl : ∀ v : Value, v.Similar v
  | .unset => .unset
  | .scalar _ => .scalar
  | .sequence vs => .sequence (SimilarList.refl vs)
  | .mapping es => .mapping (SimilarEntries.refl es) (.refl es)

theorem SimilarList.refl : ∀ vs : List Value, SimilarList vs vs
  | [] => .nil
  | v :: vs => .cons (Similar.refl v) (SimilarList.refl vs)

theorem SimilarEntries.refl : ∀ es : List (String × Value), SimilarEntries es es
  | [] => .nil
  | (_, v) :: es => .cons (Similar.refl v) (SimilarEntries.refl es)

end

theorem keys_sortKeysEntries (es : List (String × Value)) :
    Entries.keys (sortKeysEntries es) = Entries.keys es := by
  induction es with
  | nil => rfl
  | cons e es ih => simp only [sortKeysEntries, Entries.keys_cons, ih]

theorem keys_sort_perm {es : List (String × Value)} (h : (Entries.keys es).Nodup) :
    (Entries.keys (Entries.sort (sortKeysEntries es))).Perm (Entries.keys es) := by
  rw [← keys_sortKeysEntries es] at h ⊢
  exact (Entries.sort_perm h).map Prod.fst

theorem length_sortKeysEntries (es : List (String × Value)) :
    (sortKeysEntries es).length = es.length := by
  induction es with
  | nil => rfl
  | cons e es ih => rw [sortKeysEntries, List.length_cons, ih, List.length_cons]

mutual

theorem similar_sortKeys : ∀ v : Value, v.Distinct → v.Similar v.sortKeys
  | .unset, _ => .unset
  | .scalar _, _ => .scalar
  | .sequence vs, h => .sequence (similarList_sortKeysList vs h)
  | .mapping es, h => .mapping (similarEntries_sortKeysEntries es h.2)
    (Entries.sort_perm (keys_sortKeysEntries es ▸ h.1)).symm

theorem similarList_sortKeysList :
    ∀ vs : List Value, DistinctList vs → SimilarList vs (sortKeysList vs)
  | [], _ => .nil
  | v :: vs, h => .cons (similar_sortKeys v h.1) (similarList_sortKeysList vs h.2)

theorem similarEntries_sortKeysEntries :
    ∀ es : List (String × Value), DistinctEntries es → SimilarEntries es (sortKeysEntries es)
  | [], _ => .nil
  | (_, v) :: es, h => .cons (similar_sortKeys v h.1) (similarEntries_sortKeysEntries es h.2)

end

variable {v w : Value} {vs ws us xs : List Value} {es fs gs hs : List (String × Value)}

theorem Similar.isUnset_eq (h : v.Similar w) : v.isUnset = w.isUnset := by cases h <;> rfl

theorem Similar.isScalar_eq (h : v.Similar w) : v.isScalar = w.isScalar := by cases h <;> rfl

theorem SimilarList.append (h : SimilarList vs ws) (h' : SimilarList us xs) :
    SimilarList (vs ++ us) (ws ++ xs) := by
  induction vs generalizing ws with
  | nil =>
    cases h
    exact h'
  | cons v vs ih =>
    cases h with
    | cons hv hvs => exact .cons hv (ih hvs)

theorem SimilarEntries.keys_eq (h : SimilarEntries es fs) : Entries.keys es = Entries.keys fs := by
  induction es generalizing fs with
  | nil =>
    cases h
    rfl
  | cons e es ih =>
    cases h with
    | cons hv hes => simp only [Entries.keys_cons, ih hes]

theorem SimilarEntries.append (h : SimilarEntries es fs) (h' : SimilarEntries gs hs) :
    SimilarEntries (es ++ gs) (fs ++ hs) := by
  induction es generalizing fs with
  | nil =>
    cases h
    exact h'
  | cons e es ih =>
    cases h with
    | cons hv hes => exact .cons hv (ih hes)

theorem SimilarEntries.filter (p : String → Bool) (h : SimilarEntries es fs) :
    SimilarEntries (es.filter fun e => p e.1) (fs.filter fun e => p e.1) := by
  induction es generalizing fs with
  | nil =>
    cases h
    exact .nil
  | cons e es ih =>
    cases h with
    | cons hv hes =>
      simp only [List.filter_cons]
      split
      · exact .cons hv (ih hes)
      · exact ih hes

def SimilarUnordered (es fs : List (String × Value)) : Prop := ∃ gs, SimilarEntries es gs ∧ gs.Perm fs

theorem similar_mapping_iff : Similar (.mapping es) (.mapping fs) ↔ SimilarUnordered es fs := by
  constructor
  · rintro (_ | _ | _ | ⟨h, hp⟩)
    exact ⟨_, h, hp⟩
  · rintro ⟨gs, h, hp⟩
    exact .mapping h hp

theorem SimilarUnordered.union (h : SimilarUnordered es fs) (h' : SimilarUnordered gs hs) :
    SimilarUnordered (Entries.union es gs) (Entries.union fs hs) := by
  obtain ⟨fs', h, hp⟩ := h
  obtain ⟨hs', h', hp'⟩ := h'
  have hk (k : String) : k ∈ Entries.keys es ↔ k ∈ Entries.keys fs := by
    rw [h.keys_eq]
    exact (hp.map Prod.fst).mem_iff
  refine ⟨fs' ++ hs'.filter fun e => e.1 ∉ Entries.keys es, ?_, ?_⟩
  · exact h.append (h'.filter fun k => k ∉ Entries.keys es)
  · simp only [Entries.union, hk]
    exact hp.append (hp'.filter _)

end Value

inductive GrammarError.Similar : GrammarError → GrammarError → Prop
  | refl : Similar e e
  | mismatch : v.Similar w → Similar (.mismatch expected v) (.mismatch expected w)

theorem GrammarError.Similar.isMismatch_eq {e e' : GrammarError} (h : e.Similar e') :
    e.isMismatch = e'.isMismatch := by
  cases h <;> rfl

end Recipe
