import Mathlib
import Recipe.Proofs.Evaluation.Yields
import Recipe.Proofs.Statement.Scalars

namespace Recipe

open Clause (Head)

theorem Entries.union_sublist (es fs : Entries Value) : (es.union fs).Sublist (es ++ fs) :=
  (List.Sublist.refl es).append List.filter_sublist

theorem Value.scalarsList_contribution (ofClause : Bool) (v : Value) :
    scalarsList (v.contribution ofClause) = v.scalars := by
  cases v with
  | sequence vs => cases ofClause <;> simp [contribution, scalarsList, scalars]
  | unset | scalar | mapping => simp [contribution, scalarsList]

theorem Gathered.scalars_add {g g' : Gathered} {asList ofClause : Bool} {v : Value}
    (h : g.add asList ofClause v = .ok g') :
    g'.value.scalars.Sublist (g.value.scalars ++ v.scalars) := by
  obtain ⟨vs, hvs, rfl⟩ | ⟨es, fs, hes, rfl, rfl⟩ := add_cases h
  · rw [value, Value.scalars, Value.scalarsList_append, Value.scalarsList_contribution]
    refine List.Sublist.append ?_ (.refl _)
    obtain rfl | rfl := hvs
    · exact .refl _
    · exact List.nil_sublist _
  · refine (Value.scalarsEntries_sublist (Entries.union_sublist es fs)).trans ?_
    rw [Value.scalarsEntries_append]
    refine List.Sublist.append ?_ (.refl _)
    obtain rfl | rfl := hes
    · exact .refl _
    · exact List.nil_sublist _

structure Settings.Verbatim (σ : Settings) : Prop where
  validator : σ.validator = none
  transformer : σ.transformer = none

namespace Settings.Verbatim

variable {σ : Settings} (h : σ.Verbatim)

include h

theorem inside : σ.inside.Verbatim := ⟨rfl, h.transformer⟩

theorem validate (v : Value) : σ.validate v = .ok v := by rw [Settings.validate, h.validator]

theorem leaf (path : List Statement) (v : Value) : σ.leaf path v = .ok v := by
  rw [Settings.leaf, h.transformer, h.validate]

end Settings.Verbatim

namespace Statement

theorem scalars_start (ss : List Statement) : (start ss).value.scalars = [] := by
  obtain h | h := start_value ss <;> rw [h] <;> rfl

mutual

theorem Yields.sublist {σ : Settings} {s : Statement} {v : Value} :
    Yields σ s v → σ.Verbatim → v.scalars.Sublist s.scalars
  | .unset, _ => .refl _
  | .leaf _ h, hσ => by
    rw [hσ.leaf] at h
    cases h
    exact .refl _
  | .sequence h, hσ => by
    have hs := h.sublist hσ
    rwa [scalars_start] at hs
  | .mapping h hv, hσ => by
    rw [hσ.validate] at hv
    cases hv
    exact h.sublist hσ.inside
  | .body h, hσ => (h.sublist hσ).trans (List.sublist_append_left ..)
  | .branches h, hσ => (h.sublist hσ).trans (List.sublist_append_right ..)

theorem YieldsBranches.sublist {σ : Settings} {bs : List Branch} {v : Value} :
    YieldsBranches σ bs v → σ.Verbatim → v.scalars.Sublist (scalarsBranches bs)
  | .nil, _ => .refl _
  | .body h, hσ => (h.sublist hσ).trans (List.sublist_append_left ..)
  | .skip h, hσ => (h.sublist hσ).trans (List.sublist_append_right ..)

theorem YieldsItems.sublist {σ : Settings} {g : Gathered} {ss : List Statement} {v : Value} :
    YieldsItems σ g ss v → σ.Verbatim → v.scalars.Sublist (g.value.scalars ++ scalarsList ss)
  | .nil, _ => List.sublist_append_left ..
  | .skip h, hσ => (h.sublist hσ).trans ((List.Sublist.refl _).append (List.sublist_append_right ..))
  | .settle _ h, hσ =>
    ((h.sublist hσ).trans (List.sublist_append_left ..)).trans (List.sublist_append_right ..)
  | .add hv _ hg h, hσ => by
    -- a union may leave out what stands in the middle, and `Sublist` allows for that
    have hadd := (Gathered.scalars_add hg).trans ((List.Sublist.refl g.value.scalars).append (hv.sublist hσ))
    rw [scalarsList, ← List.append_assoc]
    exact (h.sublist hσ).trans (hadd.append (.refl _))

theorem YieldsEntries.sublist {σ : Settings} {es : List (String × Statement)} {fs : Entries Value} :
    YieldsEntries σ es fs → σ.Verbatim → (Value.scalarsEntries fs).Sublist (scalarsEntries es)
  | .nil, _ => .refl _
  | .skip h, hσ => (h.sublist hσ).trans (List.sublist_append_right ..)
  | .cons hv _ h, hσ => (hv.sublist hσ).append (h.sublist hσ)

end

theorem eval_sublist {σ : Settings} (hσ : σ.Verbatim) (path : List Statement) (siblings : List Head)
    (s : Statement) {v : Value} (h : eval σ path siblings s = .ok v) : v.scalars.Sublist s.scalars :=
  (yields_of_eval s h).sublist hσ

theorem start_of_hasClauseList {ss : List Statement} (h : hasClauseList ss = false) :
    start ss = .list [] := by
  cases ss with
  | nil => rfl
  | cons s ss =>
    cases s with
    | clause => cases h
    | leaf | sequence | mapping => rfl

mutual

theorem eval_of_hasClause {σ : Settings} (hσ : σ.Verbatim) (path : List Statement)
    (siblings : List Head) : ∀ s : Statement, s.hasClause = false →
      ∃ v, eval σ path siblings s = .ok v ∧ v.scalars = s.scalars
  | .leaf u, _ => by
    by_cases hu : u = .unset
    · subst hu
      exact ⟨.unset, rfl, rfl⟩
    · exact ⟨u, by rw [eval_leaf hu, hσ.leaf], rfl⟩
  | .clause .., hc => by cases hc
  | .sequence ss, hc => by
    obtain ⟨vs, hvs, hs⟩ := evalItems_of_hasClause hσ path (heads ss) [] [] ss hc
    exact ⟨.sequence vs, by rw [eval, start_of_hasClauseList hc, hvs], hs⟩
  | .mapping es, hc => by
    obtain ⟨fs, hfs, hs⟩ := evalEntries_of_hasClause hσ.inside path es hc
    refine ⟨.mapping fs, ?_, hs⟩
    rw [eval, hfs, Except.ok_bind, hσ.validate]
termination_by structural s => s

theorem evalItems_of_hasClause {σ : Settings} (hσ : σ.Verbatim) (path : List Statement)
    (siblings before : List Head) (vs : List Value) :
    ∀ ss : List Statement, hasClauseList ss = false →
      ∃ ws, evalItems σ path siblings before (.list vs) ss = .ok (.sequence ws) ∧
        Value.scalarsList ws = Value.scalarsList vs ++ scalarsList ss
  | [], _ => ⟨vs, rfl, (List.append_nil _).symm⟩
  | s :: ss, hc => by
    rw [hasClauseList, Bool.or_eq_false_iff] at hc
    obtain ⟨v, hs, hv'⟩ := eval_of_hasClause hσ path siblings s hc.1
    have hss (vs : List Value) :=
      evalItems_of_hasClause hσ path siblings (before ++ s.head?.toList) vs ss hc.2
    rw [evalItems, hs, Except.ok_bind, scalarsList, ← hv']
    by_cases hu : v.isUnset
    · obtain rfl := Value.eq_unset hu
      exact hss vs
    · obtain ⟨ws, hws, h⟩ := hss (vs ++ v.contribution s.isClause)
      refine ⟨ws, ?_, ?_⟩
      · rw [if_neg hu]
        exact hws
      · rw [h, Value.scalarsList_append, Value.scalarsList_contribution, List.append_assoc]
termination_by structural ss => ss

theorem evalEntries_of_hasClause {σ : Settings} (hσ : σ.Verbatim) (path : List Statement) :
    ∀ es : List (String × Statement), hasClauseEntries es = false →
      ∃ fs, evalEntries σ path es = .ok fs ∧ Value.scalarsEntries fs = scalarsEntries es
  | [], _ => ⟨[], rfl, rfl⟩
  | (k, s) :: es, hc => by
    rw [hasClauseEntries, Bool.or_eq_false_iff] at hc
    obtain ⟨v, hs, hv'⟩ := eval_of_hasClause hσ path [] s hc.1
    obtain ⟨fs, hes, hfs⟩ := evalEntries_of_hasClause hσ path es hc.2
    refine ⟨_, by rw [evalEntries, hs, Except.ok_bind, hes, Except.ok_bind]; rfl, ?_⟩
    rw [scalarsEntries, ← hv', ← hfs]
    cases v <;> rfl
termination_by structural es => es

end

/-- What evaluation yields are scalars of the tree in their order, and all of them where no clause
is to be selected. -/
theorem evaluate_selects (env : Environment) (shape : Option Shape) (t : Statement) :
    (∀ v, evaluate ⟨env, none, none, shape⟩ t = .ok v → v.scalars.Sublist t.scalars) ∧
    (t.hasClause = false →
      ∃ v, evaluate ⟨env, none, none, shape⟩ t = .ok v ∧ v.scalars = t.scalars) :=
  ⟨fun _ => eval_sublist ⟨rfl, rfl⟩ [] [] t, eval_of_hasClause ⟨rfl, rfl⟩ [] [] t⟩

def toolsTree : Statement :=
  .sequence [.clause (.host (.ofList ["amd64"]))
      (.leaf (.mapping [("cc", .string "gcc"), ("opt", .string "-O2")])) [],
    .clause (.target (.ofList ["other"]))
      (.mapping [("cc", .leaf (.string "clang")),
        ("ld", .clause (.host (.ofList ["i386"])) (.leaf (.string "lld"))
          [.body (.leaf (.string "gold"))])]) []]

def tools : Value := .mapping [("cc", .string "gcc"), ("opt", .string "-O2"), ("ld", .string "gold")]

def flagsTree : Statement :=
  .sequence [.leaf (.string "-g"), .mapping [("k", .leaf .unset), ("l", .sequence [.leaf (.integer 2)])]]

theorem evaluate_selects_tools :
    (evaluate ⟨.native "amd64", none, none, some .mapping⟩ toolsTree = .ok tools ∧
      tools.scalars.Sublist toolsTree.scalars) ∧
    flagsTree.hasClause = false ∧
      ∃ v, evaluate ⟨.native "amd64", none, none, none⟩ flagsTree = .ok v ∧
        v.scalars = flagsTree.scalars := by
  have ht : evaluate ⟨.native "amd64", none, none, some .mapping⟩ toolsTree = .ok tools := by cbv
  have hf : flagsTree.hasClause = false := rfl
  exact ⟨⟨ht, (evaluate_selects _ _ toolsTree).1 _ ht⟩, hf, (evaluate_selects _ _ flagsTree).2 hf⟩

end Statement

end Recipe
