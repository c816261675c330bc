import Mathlib.Data.List.Forall2
import Recipe.Proofs.Evaluation.Steps

/-! Evaluation depends on the parts of a statement only through what they are evaluated to. Two trees that
differ in parts that are evaluated alike are evaluated alike. -/

namespace Recipe

open Clause (Head)

structure Settings.Alike (σ τ : Settings) : Prop where
  env : σ.env = τ.env
  validator : σ.validator = τ.validator
  shape : σ.shape = τ.shape

namespace Settings.Alike

variable {σ τ : Settings} (h : σ.Alike τ)

theorem refl (σ : Settings) : σ.Alike σ := ⟨rfl, rfl, rfl⟩

include h

theorem validate (v : Value) : σ.validate v = τ.validate v := by
  rw [Settings.validate, Settings.validate, h.validator]

theorem asList : σ.asList = τ.asList := by rw [Settings.asList, Settings.asList, h.shape]

end Settings.Alike

namespace Statement

variable {σ τ : Settings} {path : List Statement}

/-- Inside `path` the first statement has the value that the second has wherever it stands, and as clauses
they are the same. -/
structure EvaluatesAs (σ τ : Settings) (path : List Statement) (s t : Statement) : Prop where
  head?_eq : s.head? = t.head?
  eval_eq : ∀ path' siblings, eval σ path siblings s = eval τ path' siblings t

inductive BranchEvaluatesAs (σ τ : Settings) (path : List Statement) : Branch → Branch → Prop
  | body : EvaluatesAs σ τ path s t → BranchEvaluatesAs σ τ path (.body s) (.body t)
  | fail : BranchEvaluatesAs σ τ path .fail .fail

structure ChainEvaluatesAs (σ τ : Settings) (path : List Statement) (bs cs : List Branch) : Prop where
  branches_eq : ∀ path' h, evalBranches σ path h bs = evalBranches τ path' h cs
  fallback_eq : ∀ path' last, evalFallback σ path last bs = evalFallback τ path' last cs

namespace ChainEvaluatesAs

variable {bs cs : List Branch}

theorem nil : ChainEvaluatesAs σ τ path [] [] := ⟨fun _ _ => rfl, fun _ _ => rfl⟩

theorem fail (bs cs : List Branch) : ChainEvaluatesAs σ τ path (.fail :: bs) (.fail :: cs) :=
  ⟨fun _ _ => rfl, fun _ _ => rfl⟩

theorem body {s t : Statement} (hs : EvaluatesAs σ τ path s t) (h : ChainEvaluatesAs σ τ path bs cs) :
    ChainEvaluatesAs σ τ path (.body s :: bs) (.body t :: cs) where
  branches_eq path' k := by
    rw [evalBranches_body, evalBranches_body, hs.eval_eq path', h.branches_eq path']
  fallback_eq path' last := by
    simp only [evalFallback_body, hs.eval_eq path', h.fallback_eq path']

theorem of_forall₂ (h : List.Forall₂ (BranchEvaluatesAs σ τ path) bs cs) :
    ChainEvaluatesAs σ τ path bs cs := by
  induction h with
  | nil => exact .nil
  | cons hb _ ih =>
    cases hb with
    | fail => exact .fail _ _
    | body hs => exact .body hs ih

end ChainEvaluatesAs

def EntryEvaluatesAs (σ τ : Settings) (path : List Statement) (e f : String × Statement) : Prop :=
  e.1 = f.1 ∧ EvaluatesAs σ τ path e.2 f.2

section Lists

variable {ss ts : List Statement} {es fs : List (String × Statement)}

theorem heads_eq (h : List.Forall₂ (EvaluatesAs σ τ path) ss ts) : heads ss = heads ts := by
  rw [heads, heads]
  induction h with
  | nil => rfl
  | cons hs _ ih => rw [List.filterMap_cons, List.filterMap_cons, hs.head?_eq, ih]

theorem isClause_eq {s t : Statement} (h : s.head? = t.head?) : s.isClause = t.isClause := by
  rw [isClause, isClause, h]

theorem start_eq (h : List.Forall₂ (EvaluatesAs σ τ path) ss ts) : start ss = start ts := by
  have hall : ss.all isClause = ts.all isClause := by
    induction h with
    | nil => rfl
    | cons hs _ ih => rw [List.all_cons, List.all_cons, isClause_eq hs.head?_eq, ih]
  rw [start, start, hall]
  cases h <;> rfl

theorem settle_eq (hσ : σ.Alike τ) {s t : Statement} (h : s.head? = t.head?) (others : List Head)
    (v : Value) : settle σ.env s others v = settle τ.env t others v := by
  rw [settle, settle, h, hσ.env]

theorem evalItems_eq (hσ : σ.Alike τ) (h : List.Forall₂ (EvaluatesAs σ τ path) ss ts)
    (path' : List Statement) (siblings before : List Head) (g : Gathered) :
    evalItems σ path siblings before g ss = evalItems τ path' siblings before g ts := by
  induction h generalizing before g with
  | nil => rfl
  | cons hs hss ih =>
    simp only [evalItems, hs.eval_eq path', hs.head?_eq, isClause_eq hs.head?_eq, hσ.asList,
      settle_eq hσ hs.head?_eq, heads_eq hss, ih]

theorem evalEntries_eq (h : List.Forall₂ (EntryEvaluatesAs σ τ path) es fs) (path' : List Statement) :
    evalEntries σ path es = evalEntries τ path' fs := by
  induction h with
  | nil => rfl
  | @cons e f _ _ hs _ ih =>
    obtain ⟨k, s⟩ := e
    obtain ⟨l, t⟩ := f
    obtain ⟨rfl, hs⟩ := hs
    rw [evalEntries, evalEntries, hs.eval_eq path', ih]

end Lists

namespace EvaluatesAs

variable {s t : Statement}

theorem leaf {v w : Value} (h : ∀ path' siblings,
    eval σ path siblings (.leaf v) = eval τ path' siblings (.leaf w)) :
    EvaluatesAs σ τ path (.leaf v) (.leaf w) := ⟨rfl, h⟩

theorem clause_of_chains (hσ : σ.Alike τ) {h : Head} {b c : Statement} {bs cs : List Branch}
    (hb : EvaluatesAs σ τ (path ++ [.clause h b bs]) b c) (hbs : ChainEvaluatesAs σ τ path bs cs) :
    EvaluatesAs σ τ path (.clause h b bs) (.clause h c cs) where
  head?_eq := rfl
  eval_eq path' siblings := by
    by_cases hk : h = .attempt
    · subst hk
      simp only [eval_attempt, hbs.fallback_eq path', hb.eval_eq (path' ++ [.clause .attempt c cs])]
    · rw [eval_clause hk, eval_clause hk, hbs.branches_eq path', hσ.env,
        hb.eval_eq (path' ++ [.clause h c cs])]

theorem clause (hσ : σ.Alike τ) {h : Head} {b c : Statement} {bs cs : List Branch}
    (hb : EvaluatesAs σ τ (path ++ [.clause h b bs]) b c)
    (hbs : List.Forall₂ (BranchEvaluatesAs σ τ path) bs cs) :
    EvaluatesAs σ τ path (.clause h b bs) (.clause h c cs) :=
  clause_of_chains hσ hb (.of_forall₂ hbs)

theorem sequence (hσ : σ.Alike τ) {ss ts : List Statement}
    (h : List.Forall₂ (EvaluatesAs σ τ path) ss ts) :
    EvaluatesAs σ τ path (.sequence ss) (.sequence ts) where
  head?_eq := rfl
  eval_eq path' _ := by
    rw [eval, eval, heads_eq h, start_eq h, evalItems_eq hσ h path']

theorem mapping (hσ : σ.Alike τ) {es fs : List (String × Statement)}
    (h : List.Forall₂ (EntryEvaluatesAs σ.inside τ.inside path) es fs) :
    EvaluatesAs σ τ path (.mapping es) (.mapping fs) where
  head?_eq := rfl
  eval_eq path' _ := by
    rw [eval, eval, evalEntries_eq h path']
    simp only [hσ.validate]

end EvaluatesAs

mutual

theorem EvaluatesAs.refl {σ : Settings} (ht : σ.transformer = none) (path : List Statement) :
    ∀ s : Statement, EvaluatesAs σ σ path s s
  | .leaf v => by
    apply EvaluatesAs.leaf
    intro path' siblings
    by_cases hv : v = .unset
    · rw [hv, eval, eval]
    · rw [eval_leaf hv, eval_leaf hv, Settings.leaf, Settings.leaf, ht]
  | .clause h b bs => .clause (.refl σ) (EvaluatesAs.refl ht _ b) (evaluatesAs_branches ht path bs)
  | .sequence ss => .sequence (.refl σ) (evaluatesAs_list ht path ss)
  | .mapping es =>
    have ht : σ.inside.transformer = none := ht
    .mapping (.refl σ) (evaluatesAs_entries ht path es)
termination_by structural s => s

theorem evaluatesAs_branches {σ : Settings} (ht : σ.transformer = none) (path : List Statement) :
    ∀ bs : List Branch, List.Forall₂ (BranchEvaluatesAs σ σ path) bs bs
  | [] => .nil
  | .body s :: bs => .cons (.body (EvaluatesAs.refl ht path s)) (evaluatesAs_branches ht path bs)
  | .fail :: bs => .cons .fail (evaluatesAs_branches ht path bs)
termination_by structural bs => bs

theorem evaluatesAs_list {σ : Settings} (ht : σ.transformer = none) (path : List Statement) :
    ∀ ss : List Statement, List.Forall₂ (EvaluatesAs σ σ path) ss ss
  | [] => .nil
  | s :: ss => .cons (EvaluatesAs.refl ht path s) (evaluatesAs_list ht path ss)
termination_by structural ss => ss

theorem evaluatesAs_entries {σ : Settings} (ht : σ.transformer = none) (path : List Statement) :
    ∀ es : List (String × Statement), List.Forall₂ (EntryEvaluatesAs σ σ path) es es
  | [] => .nil
  | (_, s) :: es => .cons ⟨rfl, EvaluatesAs.refl ht path s⟩ (evaluatesAs_entries ht path es)
termination_by structural es => es

end

theorem eval_path {s : Statement} (ht : σ.transformer = none) (path path' : List Statement)
    (siblings : List Head) : eval σ path siblings s = eval σ path' siblings s :=
  (EvaluatesAs.refl ht path s).eval_eq path' siblings

end Statement

end Recipe
