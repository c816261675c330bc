import Recipe.Proofs.Outcome
import Recipe.Proofs.Statement.Plain

namespace Recipe

open Clause (Head)

namespace Value

mutual

/-- The same recipe with the entries of some mappings in another order. -/
inductive Reordered (L : Leniency) : Value → Value → Prop
  | plain : v.plain → v.Similar w → Reordered L v w
  | sequence : ReorderedList L vs ws → Reordered L (.sequence vs) (.sequence ws)
  | mapping : (Clause.tryWord ∈ Entries.keys es → L.tries) → ReorderedEntries L es fs →
      Reordered L (.mapping es) (.mapping fs)
  | unordered : L.unordered → hasReserved es = false → ReorderedEntries L es gs → gs.Perm fs →
      Reordered L (.mapping es) (.mapping fs)

inductive ReorderedList (L : Leniency) : List Value → List Value → Prop
  | nil : ReorderedList L [] []
  | cons : Reordered L v w → ReorderedList L vs ws → ReorderedList L (v :: vs) (w :: ws)

inductive ReorderedEntries (L : Leniency) : List (String × Value) → List (String × Value) → Prop
  | nil : ReorderedEntries L [] []
  | cons : Reordered L v w → ReorderedEntries L es fs →
      ReorderedEntries L ((k, v) :: es) ((k, w) :: fs)

end

variable {L : Leniency}

mutual

theorem Reordered.similar {v w : Value} : Reordered L v w → v.Similar w
  | .plain _ h => h
  | .sequence h => .sequence h.similar
  | .mapping _ h => .mapping h.similar (.refl _)
  | .unordered _ _ h hp => .mapping h.similar hp

theorem ReorderedList.similar {vs ws : List Value} : ReorderedList L vs ws → SimilarList vs ws
  | .nil => .nil
  | .cons hv hvs => .cons hv.similar hvs.similar

theorem ReorderedEntries.similar {es fs : List (String × Value)} :
    ReorderedEntries L es fs → SimilarEntries es fs
  | .nil => .nil
  | .cons hv hes => .cons hv.similar hes.similar

end

end Value

namespace Statement

mutual

inductive Similar (L : Leniency) : Statement → Statement → Prop
  | leaf : v.Similar w → Similar L (.leaf v) (.leaf w)
  | clause : (h = .attempt → L.tries) → Similar L b b' → SimilarBranches L bs bs' →
      Similar L (.clause h b bs) (.clause h b' bs')
  | sequence : SimilarList L ss ts → Similar L (.sequence ss) (.sequence ts)
  | mapping : SimilarEntries L es fs → Similar L (.mapping es) (.mapping fs)
  | unordered : L.unordered → SimilarEntries L es gs → gs.Perm fs → Similar L (.mapping es) (.mapping fs)

inductive SimilarBranches (L : Leniency) : List Branch → List Branch → Prop
  | nil : SimilarBranches L [] []
  | fail : SimilarBranches L bs cs → SimilarBranches L (.fail :: bs) (.fail :: cs)
  | body : Similar L s t → SimilarBranches L bs cs → SimilarBranches L (.body s :: bs) (.body t :: cs)

inductive SimilarList (L : Leniency) : List Statement → List Statement → Prop
  | nil : SimilarList L [] []
  | cons : Similar L s t → SimilarList L ss ts → SimilarList L (s :: ss) (t :: ts)

inductive SimilarEntries (L : Leniency) :
    List (String × Statement) → List (String × Statement) → Prop
  | nil : SimilarEntries L [] []
  | cons : Similar L s t → SimilarEntries L es fs → SimilarEntries L ((k, s) :: es) ((k, t) :: fs)

end

variable {L : Leniency} {s t : Statement} {ss ts ss' ts' : List Statement} {bs cs : List Branch}

theorem Similar.head?_eq (h : Similar L s t) : s.head? = t.head? := by cases h <;> rfl

theorem Similar.isClause_eq (h : Similar L s t) : s.isClause = t.isClause := by
  rw [isClause, isClause, h.head?_eq]

theorem SimilarList.all_isClause_eq (h : SimilarList L ss ts) : ss.all isClause = ts.all isClause := by
  induction ss generalizing ts with
  | nil =>
    cases h
    rfl
  | cons s ss ih =>
    cases h with
    | cons hs hss => rw [List.all_cons, List.all_cons, hs.isClause_eq, ih hss]

theorem SimilarList.append (h : SimilarList L ss ts) (h' : SimilarList L ss' ts') :
    SimilarList L (ss ++ ss') (ts ++ ts') := by
  induction ss generalizing ts with
  | nil =>
    cases h
    exact h'
  | cons s ss ih =>
    cases h with
    | cons hs hss => exact .cons hs (ih hss)

theorem SimilarBranches.append {bs cs bs' cs' : List Branch} (h : SimilarBranches L bs cs)
    (h' : SimilarBranches L bs' cs') : SimilarBranches L (bs ++ bs') (cs ++ cs') := by
  induction bs generalizing cs with
  | nil =>
    cases h
    exact h'
  | cons b bs ih =>
    cases h with
    | fail h => exact .fail (ih h)
    | body hs h => exact .body hs (ih h)

theorem SimilarBranches.isEmpty_eq (h : SimilarBranches L bs cs) : bs.isEmpty = cs.isEmpty := by
  cases h <;> rfl

theorem hasClauseEntries_perm {es fs : List (String × Statement)} (h : es.Perm fs) :
    hasClauseEntries es = hasClauseEntries fs := by
  induction h with
  | nil => rfl
  | cons e _ ih => simp only [hasClauseEntries, ih]
  | swap e e' es => simp only [hasClauseEntries, Bool.or_left_comm]
  | trans _ _ ih ih' => rw [ih, ih']

mutual

theorem Similar.hasClause_eq {s t : Statement} : Similar L s t → s.hasClause = t.hasClause
  | .leaf _ | .clause _ _ _ => rfl
  | .sequence h => h.hasClause_eq
  | .mapping h => h.hasClause_eq
  | .unordered _ h hp => h.hasClause_eq.trans (hasClauseEntries_perm hp)

theorem SimilarList.hasClause_eq {ss ts : List Statement} :
    SimilarList L ss ts → hasClauseList ss = hasClauseList ts
  | .nil => rfl
  | .cons hs hss => by rw [hasClauseList, hasClauseList, hs.hasClause_eq, hss.hasClause_eq]

theorem SimilarEntries.hasClause_eq {es fs : List (String × Statement)} :
    SimilarEntries L es fs → hasClauseEntries es = hasClauseEntries fs
  | .nil => rfl
  | .cons hs hes => by rw [hasClauseEntries, hasClauseEntries, hs.hasClause_eq, hes.hasClause_eq]

end

mutual

theorem similar_ofPlain {v w : Value} : v.Similar w → Similar L (ofPlain v) (ofPlain w)
  | .unset => .leaf .unset
  | .scalar => .leaf .scalar
  | .sequence h => .sequence (similarList_ofPlain h)
  | .mapping h hp => .leaf (.mapping h hp)

theorem similarList_ofPlain {vs ws : List Value} :
    Value.SimilarList vs ws → SimilarList L (ofPlainList vs) (ofPlainList ws)
  | .nil => .nil
  | .cons hv hvs => .cons (similar_ofPlain hv) (similarList_ofPlain hvs)

end

end Statement

end Recipe
