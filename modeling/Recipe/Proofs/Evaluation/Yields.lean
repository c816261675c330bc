import Recipe.Proofs.Evaluation.Steps

/-! The values that a statement may have, whatever the environment selects. What all of them satisfy is
shown here by induction, without a look at how clauses are selected. -/

namespace Recipe

open Clause (Head)

namespace Statement

mutual

/-- A clause may have any value of its body and of its branches, and none at all. -/
inductive Yields : Settings → Statement → Value → Prop
  | unset : Yields σ (.leaf .unset) .unset
  | leaf : u ≠ .unset → σ.leaf path u = .ok v → Yields σ (.leaf u) v
  | sequence : YieldsItems σ (start ss) ss v → Yields σ (.sequence ss) v
  | mapping : YieldsEntries σ.inside es fs → σ.validate (.mapping fs) = .ok v → Yields σ (.mapping es) v
  | body : Yields σ b v → Yields σ (.clause h b bs) v
  | branches : YieldsBranches σ bs v → Yields σ (.clause h b bs) v

inductive YieldsBranches : Settings → List Branch → Value → Prop
  | nil : YieldsBranches σ [] .unset
  | body : Yields σ s v → YieldsBranches σ (.body s :: bs) v
  | skip : YieldsBranches σ bs v → YieldsBranches σ (.body s :: bs) v

inductive YieldsItems : Settings → Gathered → List Statement → Value → Prop
  | nil : YieldsItems σ g [] g.value
  | skip : YieldsItems σ g ss v → YieldsItems σ g (s :: ss) v
  | settle : g.settles σ.asList v → Yields σ s v → YieldsItems σ g (s :: ss) v
  | add : Yields σ s w → w.isUnset = false → g.add σ.asList s.isClause w = .ok g' →
      YieldsItems σ g' ss v → YieldsItems σ g (s :: ss) v

inductive YieldsEntries : Settings → List (String × Statement) → Entries Value → Prop
  | nil : YieldsEntries σ [] []
  | skip : YieldsEntries σ es fs → YieldsEntries σ ((k, s) :: es) fs
  | cons : Yields σ s v → v.isUnset = false → YieldsEntries σ es fs →
      YieldsEntries σ ((k, s) :: es) ((k, v) :: fs)

end

mutual

theorem yields_of_eval {σ : Settings} {path : List Statement} {siblings : List Head} :
    ∀ (s : Statement) {v : Value}, eval σ path siblings s = .ok v → Yields σ s v
  | .leaf u, v, h => by
    by_cases hu : u = .unset
    · subst hu
      cases h
      exact .unset
    · rw [eval_leaf hu] at h
      exact .leaf hu h
  | .sequence ss, v, h => by
    rw [eval] at h
    exact .sequence (yieldsItems_of_evalItems ss h)
  | .mapping es, v, h => by
    rw [eval] at h
    obtain ⟨fs, hes, h⟩ := Except.bind_eq_ok.1 h
    exact .mapping (yieldsEntries_of_evalEntries es hes) h
  | .clause k b bs, v, h => by
    by_cases hk : k = .attempt
    · subst hk
      rw [eval_attempt] at h
      obtain ⟨w, hw, ⟨⟩⟩ | ⟨e, -, h⟩ := recover_eq_ok h
      · exact .body (yields_of_eval b hw)
      · exact .branches (yieldsBranches_of_evalFallback bs h)
    · rw [eval_clause hk] at h
      split at h
      · exact .body (yields_of_eval b h)
      · exact .branches (yieldsBranches_of_evalBranches bs h)
termination_by structural s => s

theorem yieldsBranches_of_evalBranches {σ : Settings} {path : List Statement} {k : Head} :
    ∀ (bs : List Branch) {v : Value}, evalBranches σ path k bs = .ok v → YieldsBranches σ bs v
  | [], v, h => by
    cases h
    exact .nil
  | .fail :: bs, v, h => by cases h
  | .body s :: bs, v, h => by
    rw [evalBranches_body] at h
    obtain ⟨w, hw, h⟩ := Except.bind_eq_ok.1 h
    split at h
    · exact .skip (yieldsBranches_of_evalBranches bs h)
    · cases h
      exact .body (yields_of_eval s hw)
termination_by structural bs => bs

theorem yieldsBranches_of_evalFallback {σ : Settings} {path : List Statement}
    {last : Option GrammarError} :
    ∀ (bs : List Branch) {v : Value}, evalFallback σ path last bs = .ok v → YieldsBranches σ bs v
  | [], v, h => by
    cases last with
    | none =>
      cases h
      exact .nil
    | some e => cases h
  | .fail :: bs, v, h => by cases h
  | .body s :: bs, v, h => by
    rw [evalFallback_body] at h
    obtain ⟨w, hw, h⟩ | ⟨e, -, h⟩ := recover_eq_ok h
    · split at h
      · exact .skip (yieldsBranches_of_evalFallback bs h)
      · cases h
        exact .body (yields_of_eval s hw)
    · exact .skip (yieldsBranches_of_evalFallback bs h)
termination_by structural bs => bs

theorem yieldsItems_of_evalItems {σ : Settings} {path : List Statement} {siblings before : List Head}
    {g : Gathered} : ∀ (ss : List Statement) {v : Value},
      evalItems σ path siblings before g ss = .ok v → YieldsItems σ g ss v
  | [], v, h => by
    cases h
    exact .nil
  | s :: ss, v, h => by
    obtain ⟨w, hw, ⟨-, h⟩ | ⟨hg, rfl⟩ | ⟨hu, -, g', hg, h⟩⟩ := evalItems_cons_eq_ok h
    · exact .skip (yieldsItems_of_evalItems ss h)
    · exact .settle hg (yields_of_eval s hw)
    · exact .add (yields_of_eval s hw) hu hg (yieldsItems_of_evalItems ss h)
termination_by structural ss => ss

theorem yieldsEntries_of_evalEntries {σ : Settings} {path : List Statement} :
    ∀ (es : List (String × Statement)) {fs : Entries Value},
      evalEntries σ path es = .ok fs → YieldsEntries σ es fs
  | [], fs, h => by
    cases h
    exact .nil
  | (k, s) :: es, fs, h => by
    rw [evalEntries] at h
    obtain ⟨v, hv, h⟩ := Except.bind_eq_ok.1 h
    obtain ⟨gs, hes, h⟩ := Except.bind_eq_ok.1 h
    cases h
    split
    · exact .skip (yieldsEntries_of_evalEntries es hes)
    · rename_i hu
      exact .cons (yields_of_eval s hv) (Bool.eq_false_iff.2 hu) (yieldsEntries_of_evalEntries es hes)
termination_by structural es => es

end

end Statement

end Recipe
