import Mathlib
import Recipe.Proofs.Evaluation.Congruence

namespace Recipe

open Clause (Head)

def Branch.outcome (σ : Settings) (h : Head) : Branch → Except GrammarError Value
  | .body s => s.evaluate σ
  | .fail => .error (.unsatisfied h)

def Branch.outcomes (σ : Settings) (h : Head) (bs : List Branch) : List (Except GrammarError Value) :=
  bs.map (outcome σ h)

namespace Statement

def isNothing (r : Except GrammarError Value) : Bool := r matches .ok .unset

def isRejection : Except GrammarError Value → Bool
  | .ok _ => false
  | .error e => e.isMismatch

variable {σ : Settings} {path : List Statement} {siblings : List Head} {h : Head} {b : Statement}
  {bs : List Branch}

theorem evalBranches_eq_find? (ht : σ.transformer = none) (h : Head) (bs : List Branch) :
    evalBranches σ path h bs = ((Branch.outcomes σ h bs).find? (!isNothing ·)).getD (.ok .unset) := by
  induction bs with
  | nil => rfl
  | cons b bs ih =>
    cases b with
    | fail => rfl
    | body s =>
      rw [evalBranches_body, ih, eval_path ht path []]
      change s.evaluate σ >>= _ = ((s.evaluate σ :: Branch.outcomes σ h bs).find? _).getD _
      rw [List.find?_cons]
      cases s.evaluate σ with
      | error e => rfl
      | ok v => cases v <;> rfl

def exhausted : Option GrammarError → Except GrammarError Value
  | none => .ok .unset
  | some e => .error e

theorem evalFallback_eq_find? (ht : σ.transformer = none) (last : Option GrammarError)
    (bs : List Branch) : evalFallback σ path last bs =
      ((Branch.outcomes σ .attempt bs).find? fun r => !isNothing r && !isRejection r).getD
        ((Branch.outcomes σ .attempt bs).getLastD (exhausted last)) := by
  induction bs generalizing last with
  | nil => cases last <;> rfl
  | cons b bs ih =>
    cases b with
    | fail => rfl
    | body s =>
      rw [evalFallback_body, eval_path ht path []]
      simp only [ih]
      change recover (s.evaluate σ) _ _ = ((s.evaluate σ :: Branch.outcomes σ .attempt bs).find? _).getD
        ((s.evaluate σ :: Branch.outcomes σ .attempt bs).getLastD _)
      rw [List.find?_cons, List.getLastD_cons]
      cases s.evaluate σ with
      | ok v => cases v <;> rfl
      | error e =>
        cases he : e.isMismatch <;> simp [recover, isNothing, isRejection, exhausted, he]

theorem eval_not_selected (ht : σ.transformer = none) (hs : h.selected siblings σ.env = false) :
    eval σ path siblings (.clause h b bs) =
      ((Branch.outcomes σ h bs).find? (!isNothing ·)).getD (.ok .unset) := by
  have hk : h ≠ .attempt := by
    rintro rfl
    cases hs
  rw [eval_clause hk, hs, if_neg Bool.false_ne_true, evalBranches_eq_find? ht]

theorem eval_attempt_eq_find? (ht : σ.transformer = none) (b : Statement) (bs : List Branch) :
    eval σ path siblings (.clause .attempt b bs) =
      if isRejection (b.evaluate σ) then
        ((Branch.outcomes σ .attempt bs).find? fun r => !isNothing r && !isRejection r).getD
          ((Branch.outcomes σ .attempt bs).getLastD (b.evaluate σ))
      else b.evaluate σ := by
  rw [eval_attempt, eval_path ht _ []]
  simp only [evalFallback_eq_find? ht]
  change recover (b.evaluate σ) _ _ = _
  cases b.evaluate σ with
  | ok v => rfl
  | error e => cases he : e.isMismatch <;> simp [recover, isRejection, exhausted, he]

theorem getLast?_of_isRejection (ht : σ.transformer = none) (hbs : bs ≠ [])
    (hr : isRejection (eval σ path siblings (.clause .attempt b bs))) :
    (Branch.outcomes σ .attempt bs).getLast? =
      some (eval σ path siblings (.clause .attempt b bs)) := by
  by_cases hb : isRejection (b.evaluate σ)
  · rw [eval_attempt_eq_find? ht, if_pos hb] at hr ⊢
    cases hf : (Branch.outcomes σ .attempt bs).find? fun r => !isNothing r && !isRejection r with
    | some r =>
      have hn := List.find?_some hf
      rw [hf, Option.getD_some] at hr
      simp [hr] at hn
    | none =>
      have hne : Branch.outcomes σ .attempt bs ≠ [] := mt List.map_eq_nil_iff.1 hbs
      rw [Option.getD_none, List.getLastD_eq_getLast?, List.getLast?_eq_some_getLast hne,
        Option.getD_some]
  · rw [eval_attempt_eq_find? ht, if_neg hb] at hr
    exact absurd hr hb

mutual

/-- The tree without the branches that follow one that forbids to go on, at every clause. -/
def prune : Statement → Statement
  | .leaf v => .leaf v
  | .clause h b bs => .clause h b.prune (pruneBranches bs)
  | .sequence ss => .sequence (pruneList ss)
  | .mapping es => .mapping (pruneEntries es)

def pruneBranches : List Branch → List Branch
  | [] => []
  | .fail :: _ => [.fail]
  | .body s :: bs => .body s.prune :: pruneBranches bs

def pruneList : List Statement → List Statement
  | [] => []
  | s :: ss => s.prune :: pruneList ss

def pruneEntries : List (String × Statement) → List (String × Statement)
  | [] => []
  | (k, s) :: es => (k, s.prune) :: pruneEntries es

end

mutual

theorem evaluatesAs_prune {σ : Settings} (ht : σ.transformer = none) (path : List Statement) :
    ∀ s : Statement, EvaluatesAs σ σ path s s.prune
  | .leaf v => .refl ht path (.leaf v)
  | .clause h b bs => .clause_of_chains (.refl σ) (evaluatesAs_prune ht (path ++ [.clause h b bs]) b)
      (chainEvaluatesAs_prune ht path bs)
  | .sequence ss => .sequence (.refl σ) (evaluatesAs_pruneList ht path ss)
  | .mapping es =>
    have ht : σ.inside.transformer = none := ht
    .mapping (.refl σ) (evaluatesAs_pruneEntries ht path es)
termination_by structural s => s

theorem chainEvaluatesAs_prune {σ : Settings} (ht : σ.transformer = none) (path : List Statement) :
    ∀ bs : List Branch, ChainEvaluatesAs σ σ path bs (pruneBranches bs)
  | [] => .nil
  | .fail :: bs => .fail bs []
  | .body s :: bs => .body (evaluatesAs_prune ht path s) (chainEvaluatesAs_prune ht path bs)
termination_by structural bs => bs

theorem evaluatesAs_pruneList {σ : Settings} (ht : σ.transformer = none) (path : List Statement) :
    ∀ ss : List Statement, List.Forall₂ (EvaluatesAs σ σ path) ss (pruneList ss)
  | [] => .nil
  | s :: ss => .cons (evaluatesAs_prune ht path s) (evaluatesAs_pruneList ht path ss)
termination_by structural ss => ss

theorem evaluatesAs_pruneEntries {σ : Settings} (ht : σ.transformer = none) (path : List Statement) :
    ∀ es : List (String × Statement), List.Forall₂ (EntryEvaluatesAs σ σ path) es (pruneEntries es)
  | [] => .nil
  | (_, s) :: es => .cons ⟨rfl, evaluatesAs_prune ht path s⟩ (evaluatesAs_pruneEntries ht path es)
termination_by structural es => es

end

/-- A clause that is not selected is what the first of its branches is that has a value or fails. A `try`
is its body, unless that is rejected: then it is the first branch that has a value or fails in another
way, and the last branch when there is none, so that it is rejected only as that branch is. What follows a
branch that forbids to go on may be left out, at every clause of a tree. -/
theorem chains_decide (env : Environment) (check : Option Validator) (shape : Option Shape)
    (path : List Statement) (siblings : List Head) :
    let σ : Settings := ⟨env, check, none, shape⟩
    (∀ h b bs, h.selected siblings env = false → eval σ path siblings (.clause h b bs) =
      ((Branch.outcomes σ h bs).find? (!isNothing ·)).getD (.ok .unset)) ∧
    (∀ b bs, eval σ path siblings (.clause .attempt b bs) =
      if isRejection (b.evaluate σ) then
        ((Branch.outcomes σ .attempt bs).find? fun r => !isNothing r && !isRejection r).getD
          ((Branch.outcomes σ .attempt bs).getLastD (b.evaluate σ))
      else b.evaluate σ) ∧
    (∀ b bs, bs ≠ [] → isRejection (eval σ path siblings (.clause .attempt b bs)) →
      (Branch.outcomes σ .attempt bs).getLast? = some (eval σ path siblings (.clause .attempt b bs))) ∧
    ∀ t : Statement, eval σ path siblings t.prune = eval σ path siblings t :=
  ⟨fun _ _ _ hs => eval_not_selected rfl hs, eval_attempt_eq_find? rfl,
    fun _ _ hbs hr => getLast?_of_isRejection rfl hbs hr,
    fun t => ((evaluatesAs_prune rfl path t).eval_eq path siblings).symm⟩

def forced : List Branch :=
  [.body (.clause (.host (.ofList ["i386"])) (.leaf (.string "a")) []),
    .body (.clause .attempt (.leaf (.bool true))
      [.body (.leaf (.bool false)), .fail, .body (.leaf (.string "b"))]),
    .body (.leaf (.string "c")), .fail, .body (.leaf (.string "d"))]

def forcedPruned : List Branch :=
  [.body (.clause (.host (.ofList ["i386"])) (.leaf (.string "a")) []),
    .body (.clause .attempt (.leaf (.bool true)) [.body (.leaf (.bool false)), .fail]),
    .body (.leaf (.string "c")), .fail]

def rejecting : List Branch := [.body (.leaf .unset), .body (.leaf (.bool false))]

def stringSettings : Settings := ⟨.native "amd64", some LeafType.string.check, none, none⟩

theorem chains_decide_forced :
    Head.selected (.host (.ofList ["arm64"])) [] (.native "amd64") = false ∧
    evaluate stringSettings (.clause (.host (.ofList ["arm64"])) (.leaf (.bool true)) forced) =
      ((Branch.outcomes stringSettings (.host (.ofList ["arm64"])) forced).find? (!isNothing ·)).getD
        (.ok .unset) ∧
    evaluate stringSettings (.clause (.host (.ofList ["arm64"])) (.leaf (.bool true)) forcedPruned) =
      .error (.unsatisfied .attempt) ∧
    rejecting ≠ [] ∧
    isRejection (evaluate stringSettings (.clause .attempt (.leaf (.bool true)) rejecting)) ∧
    (Branch.outcomes stringSettings .attempt rejecting).getLast? =
      some (.error (.mismatch "a string" (.bool false))) := by
  obtain ⟨hclause, htry, hlast, hprune⟩ :=
    chains_decide (.native "amd64") (some LeafType.string.check) none [] []
  have hs : Head.selected (.host (.ofList ["arm64"])) [] (.native "amd64") = false := by decide
  have he : evaluate stringSettings (.clause (.host (.ofList ["arm64"])) (.leaf (.bool true)) forced) =
      .error (.unsatisfied .attempt) := by cbv
  have hr : evaluate stringSettings (.clause .attempt (.leaf (.bool true)) rejecting) =
      .error (.mismatch "a string" (.bool false)) := (htry _ _).trans (by cbv)
  have hrej : isRejection (evaluate stringSettings (.clause .attempt (.leaf (.bool true)) rejecting)) := by
    rw [hr]
    rfl
  exact ⟨hs, hclause _ _ _ hs, (hprune (.clause _ _ forced)).trans he, by simp [rejecting], hrej,
    (hlast _ _ (by simp [rejecting]) hrej).trans (congrArg some hr)⟩

end Statement

end Recipe
