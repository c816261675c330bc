import Mathlib
import Recipe.Proofs.Evaluation.Ambiguity
import Recipe.Proofs.Statement.Family

namespace Recipe

open Clause (Head)

namespace Value

def LeadsWith (v : Value) (s : Scalar) : Prop := v = .scalar s ∨ ∃ vs, v = .sequence (.scalar s :: vs)

/-- What the value `v` may become where a list is wanted. -/
structure ListedAs (v w : Value) : Prop where
  unset_iff : v = .unset ↔ w = .unset
  leadsWith : ∀ s, v = .scalar s → w.LeadsWith s

theorem ListedAs.refl (v : Value) : v.ListedAs v := ⟨.rfl, fun _ => .inl⟩

theorem ListedAs.isUnset_eq {v w : Value} (h : v.ListedAs w) : v.isUnset = w.isUnset := by
  rw [Bool.eq_iff_iff]
  constructor
  · intro hv
    rw [h.unset_iff.1 (eq_unset hv)]
    rfl
  · intro hw
    rw [h.unset_iff.2 (eq_unset hw)]
    rfl

theorem LeadsWith.contribution {v : Value} {s : Scalar} (h : v.LeadsWith s) :
    ∃ vs, v.contribution true = .scalar s :: vs := by
  obtain rfl | ⟨vs, rfl⟩ := h
  · exact ⟨[], rfl⟩
  · exact ⟨vs, rfl⟩

end Value

def WhereBoth {α β : Type} (A : α → β → Prop) (r : Except GrammarError α) (r' : Except GrammarError β) :
    Prop :=
  ∀ a b, r = .ok a → r' = .ok b → A a b

namespace WhereBoth

variable {α β γ δ : Type} {A : α → β → Prop} {B : γ → δ → Prop} {r : Except GrammarError α}
  {r' : Except GrammarError β}

theorem ok {a : α} {b : β} (h : A a b) : WhereBoth A (.ok a) (.ok b) := by
  rintro _ _ ⟨⟩ ⟨⟩
  exact h

theorem bind {k : α → Except GrammarError γ} {k' : β → Except GrammarError δ} (h : WhereBoth A r r')
    (hk : ∀ a b, A a b → WhereBoth B (k a) (k' b)) : WhereBoth B (r >>= k) (r' >>= k') := by
  intro c d hc hd
  obtain ⟨a, ha, hc⟩ := Except.bind_eq_ok.1 hc
  obtain ⟨b, hb, hd⟩ := Except.bind_eq_ok.1 hd
  exact hk a b (h a b ha hb) c d hc hd

theorem refl (r : Except GrammarError Value) : WhereBoth Value.ListedAs r r := by
  intro v w hv hw
  cases hv.symm.trans hw
  exact .refl v

end WhereBoth

theorem Gathered.nothing_add_listed (ofClause : Bool) (v : Value) :
    Gathered.nothing.add true ofClause v = .ok (.list (v.contribution ofClause)) := by
  cases v <;> rfl

def Settings.unshaped (σ : Settings) : Settings := { σ with shape := none }

def Settings.listed (σ : Settings) : Settings := { σ with shape := some .list }

namespace Statement

section Items

variable {σ : Settings} {path : List Statement} {siblings before : List Head} {ss : List Statement}

theorem isClause_of_start (h : start ss = .nothing) : ∀ s ∈ ss, s.isClause := by
  rw [start] at h
  split at h
  · cases h
  · rename_i hn
    rw [Bool.or_eq_true, not_or, Bool.not_eq_true', Bool.not_eq_false] at hn
    exact List.all_eq_true.1 hn.2

theorem start_of_ne_nothing (h : start ss ≠ .nothing) : start ss = .list [] := by
  rw [start] at h ⊢
  split at h
  · exact if_pos ‹_›
  · exact absurd rfl h

theorem evalItems_list {vs : List Value} {v : Value}
    (h : evalItems σ path siblings before (.list vs) ss = .ok v) : ∃ ws, v = .sequence (vs ++ ws) := by
  induction ss generalizing before vs with
  | nil =>
    cases h
    exact ⟨[], by rw [List.append_nil]; rfl⟩
  | cons s ss ih =>
    obtain ⟨w, -, ⟨-, h⟩ | ⟨hs, -⟩ | ⟨-, -, g, hg, h⟩⟩ := evalItems_cons_eq_ok h
    · exact ih h
    · cases hs
    · cases hg
      obtain ⟨ws, hw⟩ := ih h
      exact ⟨_, hw.trans (by rw [List.append_assoc])⟩

theorem evalItems_of_first {s : Statement} {v w : Value} (hs : eval σ path siblings s = .ok v)
    (hu : v ≠ .unset) (h : evalItems σ path siblings before .nothing (s :: ss) = .ok w) :
    w ≠ .unset ∧ ∀ u, w = .scalar u → v = .scalar u := by
  obtain ⟨v', hs', h⟩ := evalItems_cons_eq_ok h
  cases hs.symm.trans hs'
  obtain ⟨rfl, -⟩ | ⟨-, rfl⟩ | ⟨-, -, g, hg, h⟩ := h
  · exact absurd rfl hu
  · exact ⟨hu, fun _ => id⟩
  · obtain ⟨hw, hw'⟩ := evalItems_of_begun (Gathered.ne_nothing_of_add hg) h
    exact ⟨hw, fun u he => absurd he (hw' u)⟩

theorem evalItems_of_first_listed (hl : σ.asList) {s : Statement} (hc : s.isClause) {v w : Value}
    (hs : eval σ path siblings s = .ok v) (hu : v ≠ .unset)
    (h : evalItems σ path siblings before .nothing (s :: ss) = .ok w) :
    ∃ ws, w = .sequence (v.contribution true ++ ws) := by
  obtain ⟨v', hs', h⟩ := evalItems_cons_eq_ok h
  cases hs.symm.trans hs'
  obtain ⟨rfl, -⟩ | ⟨hsettles, -⟩ | ⟨-, -, g, hg, h⟩ := h
  · exact absurd rfl hu
  · simp [Gathered.settles, hl] at hsettles
  · rw [hl, hc, Gathered.nothing_add_listed] at hg
    cases hg
    exact evalItems_list h

end Items

mutual

theorem eval_listed (σ : Settings) (path : List Statement) (siblings : List Head) :
    ∀ s : Statement, (∀ h ∈ s.allHeads, h ≠ .attempt) → WhereBoth Value.ListedAs
      (eval σ.unshaped path siblings s) (eval σ.listed path siblings s)
  | .leaf v, _ => by
    by_cases hv : v = .unset
    · subst hv
      exact .refl _
    · rw [eval_leaf hv, eval_leaf hv]
      exact .refl (σ.leaf path v)
  | .mapping es, _ => by
    -- inside a mapping no shape is wanted
    rw [eval, eval]
    exact .refl _
  | .clause h b bs, ht => by
    rw [allHeads, List.forall_mem_cons, List.forall_mem_append] at ht
    rw [eval_clause ht.1, eval_clause ht.1]
    change WhereBoth _ (if h.selected siblings σ.env then _ else _) (if h.selected siblings σ.env then _ else _)
    split
    · exact eval_listed σ _ [] b ht.2.1
    · exact evalBranches_listed σ path h bs ht.2.2
  | .sequence ss, ht => by
    rw [eval, eval]
    by_cases hc : start ss = .nothing
    · rw [hc]
      exact evalItems_listed σ path (heads ss) [] ss (isClause_of_start hc) ht
    · rw [start_of_ne_nothing hc]
      intro v w hv hw
      obtain ⟨us, rfl⟩ := evalItems_list hv
      obtain ⟨ws, rfl⟩ := evalItems_list hw
      exact ⟨by simp, by simp⟩
termination_by structural s => s

theorem evalBranches_listed (σ : Settings) (path : List Statement) (h : Head) :
    ∀ bs : List Branch, (∀ h ∈ allHeadsBranches bs, h ≠ .attempt) → WhereBoth Value.ListedAs
      (evalBranches σ.unshaped path h bs) (evalBranches σ.listed path h bs)
  | [], _ | .fail :: _, _ => .refl _
  | .body s :: bs, ht => by
    rw [allHeadsBranches, List.forall_mem_append] at ht
    rw [evalBranches_body, evalBranches_body]
    refine (eval_listed σ path [] s ht.1).bind fun v w hvw => ?_
    rw [hvw.isUnset_eq]
    split
    · exact evalBranches_listed σ path h bs ht.2
    · exact .ok hvw
termination_by structural bs => bs

theorem evalItems_listed (σ : Settings) (path : List Statement) (siblings before : List Head) :
    ∀ ss : List Statement, (∀ s ∈ ss, s.isClause) → (∀ h ∈ allHeadsList ss, h ≠ .attempt) →
      WhereBoth Value.ListedAs (evalItems σ.unshaped path siblings before .nothing ss)
        (evalItems σ.listed path siblings before .nothing ss)
  | [], _, _ => .refl _
  | s :: ss, hc, ht => by
    rw [List.forall_mem_cons] at hc
    rw [allHeadsList, List.forall_mem_append] at ht
    intro a b ha hb
    obtain ⟨v, hv, -⟩ := evalItems_cons_eq_ok ha
    obtain ⟨w, hw, -⟩ := evalItems_cons_eq_ok hb
    have hvw : v.ListedAs w := eval_listed σ path siblings s ht.1 v w hv hw
    -- either run goes on to the next item, or has its first value here
    by_cases hu : v = .unset
    · rw [evalItems, hv, hu] at ha
      rw [evalItems, hw, hvw.unset_iff.1 hu] at hb
      exact evalItems_listed σ path siblings _ ss hc.2 ht.2 a b ha hb
    · obtain ⟨ha, has⟩ := evalItems_of_first hv hu ha
      obtain ⟨ws, rfl⟩ := evalItems_of_first_listed rfl hc.1 hw (mt hvw.unset_iff.2 hu) hb
      refine ⟨iff_of_false ha (by simp), ?_⟩
      intro u hau
      obtain ⟨vs, hvs⟩ := (hvw.leadsWith u (has u hau)).contribution
      rw [hvs]
      exact .inr ⟨vs ++ ws, rfl⟩
termination_by structural ss => ss

end

/-- Where a list is wanted, the single value that a tree without `try` has otherwise is what it has, or is
the first item of the list. There is none in one of the two cases only if there is none in the other. -/
theorem evaluate_listed {env : Environment} {check : Option Validator} {transform : Option Transformer}
    {t : Statement} (ht : ∀ h ∈ t.allHeads, h ≠ .attempt) {v w : Value}
    (hv : evaluate ⟨env, check, transform, none⟩ t = .ok v)
    (hw : evaluate ⟨env, check, transform, some .list⟩ t = .ok w) :
    (∀ s, v = .scalar s → w = .scalar s ∨ ∃ ws, w = .sequence (.scalar s :: ws)) ∧
      (v = .unset ↔ w = .unset) :=
  have h := eval_listed ⟨env, check, transform, none⟩ [] [] t ht v w hv hw
  ⟨h.leadsWith, h.unset_iff⟩

def compilerChoice : Statement :=
  .sequence [
    .clause (.host (.ofList ["i386"])) (.leaf (.string "tcc")) [.body (.sequence [
      .clause (.target (.ofList ["arm64"])) (.leaf (.string "gcc-aarch64")) [],
      .clause (.host (.ofList ["amd64"])) (.leaf (.string "gcc")) []])],
    .clause (.host (.ofList ["amd64"])) (.leaf (.string "clang")) []]

theorem evaluate_listed_compilers :
    (∀ h ∈ compilerChoice.allHeads, h ≠ .attempt) ∧
    evaluate ⟨.native "amd64", some LeafType.string.check, none, none⟩ compilerChoice =
      .ok (.string "gcc") ∧
    evaluate ⟨.native "amd64", some LeafType.string.check, none, some .list⟩ compilerChoice =
      .ok (.sequence [.string "gcc", .string "clang"]) ∧
    (Value.sequence [.string "gcc", .string "clang"] = .string "gcc" ∨
      ∃ ws, Value.sequence [.string "gcc", .string "clang"] = .sequence (.string "gcc" :: ws)) ∧
    (Value.string "gcc" = .unset ↔ Value.sequence [.string "gcc", .string "clang"] = .unset) := by
  have ht : ∀ h ∈ compilerChoice.allHeads, h ≠ .attempt := by decide
  have hv : evaluate ⟨.native "amd64", some LeafType.string.check, none, none⟩ compilerChoice =
      .ok (.string "gcc") := by cbv
  have hw : evaluate ⟨.native "amd64", some LeafType.string.check, none, some .list⟩ compilerChoice =
      .ok (.sequence [.string "gcc", .string "clang"]) := by cbv
  obtain ⟨hlead, hunset⟩ := evaluate_listed ht hv hw
  exact ⟨ht, hv, hw, hlead _ rfl, hunset⟩

end Statement

end Recipe
