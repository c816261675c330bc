import Mathlib
import Recipe.Proofs.Evaluation.Chains

namespace Recipe

open Clause (Head)

theorem Branch.outcomes_eq {bs : List Branch} (hf : .fail ∉ bs) (σ : Settings) (h k : Head) :
    outcomes σ h bs = outcomes σ k bs := by
  apply List.map_congr_left
  intro b hb
  cases b with
  | body s => rfl
  | fail => exact absurd hb hf

namespace Statement

variable {σ : Settings} {path : List Statement} {siblings : List Head} {h : Head} {b : Statement}
  {bs : List Branch}

theorem eval_selected (ht : σ.transformer = none) (hs : h.selected siblings σ.env) (hk : h ≠ .attempt) :
    eval σ path siblings (.clause h b bs) = b.evaluate σ := by
  rw [eval_clause hk, if_pos hs]
  exact eval_path ht _ _ _

/-- Where the chain does not forbid to go on, a compound clause by itself is a clause for the host around
one for the target, each with the whole chain. -/
theorem evaluate_compound (env : Environment) (check : Option Validator) (shape : Option Shape)
    (ss ts : Selectors) (b : Statement) (bs : List Branch) (hf : .fail ∉ bs) :
    let σ : Settings := ⟨env, check, none, shape⟩
    evaluate σ (.clause (.hostTarget ss ts) b bs) =
      evaluate σ (.clause (.host ss) (.clause (.target ts) b bs) bs) := by
  intro σ
  have ht : σ.transformer = none := rfl
  have hboth : (Head.hostTarget ss ts).selected [] env =
      ((Head.host ss).selected [] env && (Head.target ts).selected [] env) := rfl
  cases hh : (Head.host ss).selected [] env with
  | false =>
    rw [hh, Bool.false_and] at hboth
    rw [evaluate, evaluate, eval_not_selected ht hboth, eval_not_selected ht hh,
      Branch.outcomes_eq hf σ (.hostTarget ss ts) (.host ss)]
  | true =>
    rw [hh, Bool.true_and] at hboth
    rw [evaluate, evaluate, eval_selected ht hh (by simp), evaluate]
    cases htt : (Head.target ts).selected [] env with
    | false =>
      rw [htt] at hboth
      rw [eval_not_selected ht hboth, eval_not_selected ht htt,
        Branch.outcomes_eq hf σ (.hostTarget ss ts) (.target ts)]
    | true =>
      rw [htt] at hboth
      rw [eval_selected ht hboth (by simp), eval_selected ht htt (by simp)]

def crossChain : List Branch :=
  [.body (.clause (.host (.ofList ["arm64"])) (.leaf (.string "gcc-arm64")) []),
    .body (.clause (.target (.ofList ["riscv64"])) (.leaf (.string "gcc-riscv64")) [.fail])]

theorem evaluate_compound_cross :
    .fail ∉ crossChain ∧
    evaluate ⟨⟨"amd64", "i386", "p"⟩, some LeafType.string.check, none, none⟩
        (.clause (.hostTarget (.ofList ["amd64"]) (.ofList ["arm64"])) (.leaf (.string "gcc")) crossChain) =
      evaluate ⟨⟨"amd64", "i386", "p"⟩, some LeafType.string.check, none, none⟩
        (.clause (.host (.ofList ["amd64"]))
          (.clause (.target (.ofList ["arm64"])) (.leaf (.string "gcc")) crossChain) crossChain) ∧
    evaluate ⟨⟨"amd64", "i386", "p"⟩, some LeafType.string.check, none, none⟩
        (.clause (.hostTarget (.ofList ["amd64"]) (.ofList ["arm64"])) (.leaf (.string "gcc")) crossChain) =
      .error (.unsatisfied (.target (.ofList ["riscv64"]))) := by
  have hf : .fail ∉ crossChain := by simp [crossChain]
  exact ⟨hf, evaluate_compound _ _ _ _ _ _ _ hf, by cbv⟩

example :
    evaluate { env := .native "amd64" }
        (.clause (.hostTarget (.ofList ["arm64"]) (.ofList ["arm64"])) (.leaf (.string "gcc")) [.fail]) =
      .error (.unsatisfied (.hostTarget (.ofList ["arm64"]) (.ofList ["arm64"]))) ∧
    evaluate { env := .native "amd64" } (.clause (.host (.ofList ["arm64"]))
        (.clause (.target (.ofList ["arm64"])) (.leaf (.string "gcc")) [.fail]) [.fail]) =
      .error (.unsatisfied (.host (.ofList ["arm64"]))) := by
  constructor <;> cbv

end Statement

end Recipe
