import Recipe.Proofs.Evaluation.Congruence

namespace Recipe

open Clause (Head)

namespace Settings

def transform (σ : Settings) (path : List Statement) (v : Value) : Value :=
  match σ.transformer with
  | none => v
  | some t => t path v σ.env

def untransformed (σ : Settings) : Settings := { σ with transformer := none }

/-- No leaf with a value is transformed to `unset`, or it makes no difference as no leaf is checked. -/
def KeepsLeaves (σ : Settings) : Prop :=
  σ.validator = none ∨ ∀ path v, v ≠ .unset → σ.transform path v ≠ .unset

theorem alike_untransformed (σ : Settings) : σ.Alike σ.untransformed := ⟨rfl, rfl, rfl⟩

theorem keepsLeaves_inside (σ : Settings) : σ.inside.KeepsLeaves := .inl rfl

theorem leaf_eq (σ : Settings) (path : List Statement) (v : Value) :
    σ.leaf path v = σ.validate (σ.transform path v) := rfl

end Settings

namespace Statement

mutual

/-- The tree with each leaf but `unset` replaced by what `f` makes of it, given the clauses whose bodies it
stands in, outermost first. A branch does not stand in its clause. -/
def mapLeaves (f : List Statement → Value → Value) (path : List Statement) : Statement → Statement
  | .leaf .unset => .leaf .unset
  | .leaf v => .leaf (f path v)
  | .clause h b bs =>
    .clause h (b.mapLeaves f (path ++ [.clause h b bs])) (mapLeavesBranches f path bs)
  | .sequence ss => .sequence (mapLeavesList f path ss)
  | .mapping es => .mapping (mapLeavesEntries f path es)
termination_by structural s => s

def mapLeavesBranches (f : List Statement → Value → Value) (path : List Statement) :
    List Branch → List Branch
  | [] => []
  | .body s :: bs => .body (s.mapLeaves f path) :: mapLeavesBranches f path bs
  | .fail :: bs => .fail :: mapLeavesBranches f path bs
termination_by structural bs => bs

def mapLeavesList (f : List Statement → Value → Value) (path : List Statement) :
    List Statement → List Statement
  | [] => []
  | s :: ss => s.mapLeaves f path :: mapLeavesList f path ss
termination_by structural ss => ss

def mapLeavesEntries (f : List Statement → Value → Value) (path : List Statement) :
    List (String × Statement) → List (String × Statement)
  | [] => []
  | (k, s) :: es => (k, s.mapLeaves f path) :: mapLeavesEntries f path es
termination_by structural es => es

end

theorem mapLeaves_leaf (f : List Statement → Value → Value) (path : List Statement) {v : Value}
    (hv : v ≠ .unset) : mapLeaves f path (.leaf v) = .leaf (f path v) := by
  rw [mapLeaves]
  exact hv

theorem evaluatesAs_leaf {σ : Settings} (hσ : σ.KeepsLeaves) (path : List Statement) (v : Value) :
    EvaluatesAs σ σ.untransformed path (.leaf v) (mapLeaves σ.transform path (.leaf v)) := by
  by_cases hv : v = .unset
  · subst hv
    exact .leaf fun _ _ => rfl
  · rw [mapLeaves_leaf _ _ hv]
    apply EvaluatesAs.leaf
    intro path' siblings
    rw [eval_leaf hv, Settings.leaf_eq]
    by_cases hw : σ.transform path v = .unset
    · -- a leaf that is `unset` is not checked, so that nothing may be checked here either
      have hn : σ.validator = none := hσ.resolve_right fun h => h path v hv hw
      rw [hw, Settings.validate, hn, eval]
    · rw [eval_leaf hw, Settings.leaf_eq]
      rfl

mutual

theorem evaluatesAs_mapLeaves {σ : Settings} (hσ : σ.KeepsLeaves) (path : List Statement) :
    ∀ s : Statement, EvaluatesAs σ σ.untransformed path s (s.mapLeaves σ.transform path)
  | .leaf v => evaluatesAs_leaf hσ path v
  | .clause h b bs => .clause σ.alike_untransformed
      (evaluatesAs_mapLeaves hσ (path ++ [.clause h b bs]) b) (evaluatesAs_mapLeavesBranches hσ path bs)
  | .sequence ss => .sequence σ.alike_untransformed (evaluatesAs_mapLeavesList hσ path ss)
  | .mapping es =>
    .mapping σ.alike_untransformed (evaluatesAs_mapLeavesEntries σ.keepsLeaves_inside path es)
termination_by structural s => s

theorem evaluatesAs_mapLeavesBranches {σ : Settings} (hσ : σ.KeepsLeaves) (path : List Statement) :
    ∀ bs : List Branch, List.Forall₂ (BranchEvaluatesAs σ σ.untransformed path) bs
      (mapLeavesBranches σ.transform path bs)
  | [] => .nil
  | .body s :: bs =>
    .cons (.body (evaluatesAs_mapLeaves hσ path s)) (evaluatesAs_mapLeavesBranches hσ path bs)
  | .fail :: bs => .cons .fail (evaluatesAs_mapLeavesBranches hσ path bs)
termination_by structural bs => bs

theorem evaluatesAs_mapLeavesList {σ : Settings} (hσ : σ.KeepsLeaves) (path : List Statement) :
    ∀ ss : List Statement, List.Forall₂ (EvaluatesAs σ σ.untransformed path) ss
      (mapLeavesList σ.transform path ss)
  | [] => .nil
  | s :: ss => .cons (evaluatesAs_mapLeaves hσ path s) (evaluatesAs_mapLeavesList hσ path ss)
termination_by structural ss => ss

theorem evaluatesAs_mapLeavesEntries {σ : Settings} (hσ : σ.KeepsLeaves) (path : List Statement) :
    ∀ es : List (String × Statement), List.Forall₂ (EntryEvaluatesAs σ σ.untransformed path) es
      (mapLeavesEntries σ.transform path es)
  | [] => .nil
  | (_, s) :: es =>
    .cons ⟨rfl, evaluatesAs_mapLeaves hσ path s⟩ (evaluatesAs_mapLeavesEntries hσ path es)
termination_by structural es => es

end

end Statement

end Recipe
