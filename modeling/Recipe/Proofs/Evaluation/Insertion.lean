import Mathlib
import Recipe.Proofs.Evaluation.Ambiguity
import Recipe.Proofs.Evaluation.Congruence
import Recipe.Proofs.Evaluation.Siblings
import Recipe.Proofs.Statement.Context

namespace Recipe

open Clause (Head Kind)

namespace Clause.Head

variable {env : Environment} {h : Head} {hs hs' : List Head}

theorem selected_of_selectedByName (hn : h.selectedByName env) : h.selected hs env := by
  rw [selectedByName_eq, Bool.and_eq_true] at hn
  exact selected_of_named hn.2

theorem selected_insert (h : Head) (hs hs' : List Head) :
    h.selected (hs ++ h :: hs') env = h.selected (hs ++ hs') env := by
  cases hn : h.selectedByName env with
  | true => rw [selected_of_selectedByName hn, selected_of_selectedByName hn]
  | false => exact h.selected_congr_byName (byName_insert hn hs hs')

theorem selectedByName_eq_false (hu : h.selected hs env = false) : h.selectedByName env = false := by
  rw [← Bool.not_eq_true]
  intro hn
  rw [selected_of_selectedByName hn] at hu
  cases hu

end Clause.Head

namespace Statement

variable {σ : Settings} {path : List Statement} {siblings before : List Head} {g : Gathered}
  {ss ts : List Statement} {h : Head} {b : Statement}

theorem heads_append (ss ts : List Statement) : heads (ss ++ ts) = heads ss ++ heads ts :=
  List.filterMap_append

theorem heads_insert (ss ts : List Statement) (h : Head) (b : Statement) (bs : List Branch) :
    heads (ss ++ .clause h b bs :: ts) = heads ss ++ h :: heads ts := heads_append ..

theorem eval_of_not_selected (hu : h.selected siblings σ.env = false) :
    eval σ path siblings (.clause h b []) = .ok .unset := by
  have hk : h ≠ .attempt := by
    rintro rfl
    cases hu
  rw [eval_clause hk, hu]
  rfl

theorem evalItems_insert (hu : h.selected siblings σ.env = false) :
    evalItems σ path siblings before g (ss ++ .clause h b [] :: ts) =
      evalItems σ path siblings before g (ss ++ ts) := by
  have hn := Head.selectedByName_eq_false hu
  induction ss generalizing before g with
  | nil =>
    rw [List.nil_append, List.nil_append, evalItems, eval_of_not_selected hu]
    apply evalItems_congr_byName rfl
    exact (Head.byName_insert hn before []).trans (by rw [List.append_nil])
  | cons s ss ih =>
    have hsettle (v : Value) : settle σ.env s (before ++ heads (ss ++ .clause h b [] :: ts)) v =
        settle σ.env s (before ++ heads (ss ++ ts)) v := by
      apply settle_congr_byName
      rw [heads_insert, heads_append, ← List.append_assoc, ← List.append_assoc, Head.byName_insert hn]
    simp only [List.cons_append, evalItems, hsettle, ih]

theorem start_insert (hne : ss ++ ts ≠ []) : start (ss ++ .clause h b [] :: ts) = start (ss ++ ts) := by
  rw [start, start, List.isEmpty_eq_false_iff.2 hne, List.isEmpty_eq_false_iff.2 (by simp)]
  simp [isClause, head?]

theorem eval_sequence_insert (hne : ss ++ ts ≠ []) (hu : h.selected (heads (ss ++ ts)) σ.env = false) :
    eval σ path siblings (.sequence (ss ++ .clause h b [] :: ts)) =
      eval σ path siblings (.sequence (ss ++ ts)) := by
  have hn := Head.selectedByName_eq_false hu
  have hs : Head.byName σ.env (heads (ss ++ .clause h b [] :: ts)) =
      Head.byName σ.env (heads (ss ++ ts)) := by
    rw [heads_insert, heads_append, Head.byName_insert hn]
  rw [eval, eval, start_insert hne, evalItems_congr_byName hs rfl, evalItems_insert hu]

end Statement

namespace Context

open Statement (EvaluatesAs)

theorem fill_evaluatesAs {env : Environment} {s t : Statement}
    (h : ∀ σ : Settings, σ.env = env → σ.transformer = none → ∀ path, EvaluatesAs σ σ path s t)
    (c : Context) {σ : Settings} (he : σ.env = env) (ht : σ.transformer = none) (path : List Statement) :
    EvaluatesAs σ σ path (c.fill s) (c.fill t) := by
  induction c generalizing σ path with
  | hole => exact h σ he ht path
  | body k c bs ih => exact .clause (.refl σ) (ih he ht _) (Statement.evaluatesAs_branches ht path bs)
  | branch k b before c after ih =>
    apply EvaluatesAs.clause (.refl σ) (.refl ht _ b)
    exact List.rel_append (Statement.evaluatesAs_branches ht path before)
      (.cons (.body (ih he ht path)) (Statement.evaluatesAs_branches ht path after))
  | item before c after ih =>
    apply EvaluatesAs.sequence (.refl σ)
    exact List.rel_append (Statement.evaluatesAs_list ht path before)
      (.cons (ih he ht path) (Statement.evaluatesAs_list ht path after))
  | entry before k c after ih =>
    have he : σ.inside.env = env := he
    have ht : σ.inside.transformer = none := ht
    apply EvaluatesAs.mapping (.refl σ)
    exact List.rel_append (Statement.evaluatesAs_entries ht path before)
      (.cons ⟨rfl, ih he ht path⟩ (Statement.evaluatesAs_entries ht path after))

end Context

namespace Statement

/-- A clause without branches that is not selected among the clauses of an alternation leaves no trace when
it is put into it, wherever in a tree the alternation is and whatever the outcome. That the clause is
one of them itself makes no difference to whether it is selected. -/
theorem evaluate_insert (c : Context) {ss ts : List Statement} (hne : ss ++ ts ≠ []) (h : Head)
    (b : Statement) (env : Environment) (check : Option Validator) (shape : Option Shape) :
    h.selected (heads (ss ++ .clause h b [] :: ts)) env = h.selected (heads (ss ++ ts)) env ∧
    (h.selected (heads (ss ++ ts)) env = false →
      evaluate ⟨env, check, none, shape⟩ (c.fill (.sequence (ss ++ .clause h b [] :: ts))) =
        evaluate ⟨env, check, none, shape⟩ (c.fill (.sequence (ss ++ ts)))) := by
  constructor
  · rw [heads_insert, heads_append, Head.selected_insert]
  · intro hu
    refine (c.fill_evaluatesAs ?_ rfl rfl []).eval_eq [] []
    intro σ he ht path
    refine ⟨rfl, fun path' siblings => ?_⟩
    rw [eval_path ht path path', eval_sequence_insert hne (he ▸ hu)]

def sourceContext : Context :=
  .entry [("name", .leaf (.string "hello"))] "source"
    (.branch (.host (.ofList ["riscv64"])) (.leaf (.string "none")) [] .hole [.fail]) []

def forAmd64 : Statement := .clause (.host (.ofList ["amd64", "arm64"])) (.leaf (.string "a")) []

def forOthers : Statement := .clause (.host (.ofList ["other"])) (.leaf (.string "b")) []

theorem evaluate_insert_other :
    [] ++ [forAmd64] ≠ [] ∧
    Head.selected (.host (.ofList ["other"])) (heads ([] ++ [forAmd64])) (.native "amd64") = false ∧
    evaluate ⟨.native "amd64", some LeafType.mapping.check, none, none⟩
        (sourceContext.fill (.sequence ([] ++ forOthers :: [forAmd64]))) =
      evaluate ⟨.native "amd64", some LeafType.mapping.check, none, none⟩
        (sourceContext.fill (.sequence ([] ++ [forAmd64]))) ∧
    evaluate ⟨.native "amd64", some LeafType.mapping.check, none, none⟩
        (sourceContext.fill (.sequence ([] ++ forOthers :: [forAmd64]))) =
      .ok (.mapping [("name", .string "hello"), ("source", .string "a")]) := by
  have hne : [] ++ [forAmd64] ≠ [] := by simp
  have hu : Head.selected (.host (.ofList ["other"])) (heads ([] ++ [forAmd64])) (.native "amd64") = false := by
    decide
  exact ⟨hne, hu, (evaluate_insert sourceContext hne _ _ _ _ _).2 hu, by cbv⟩

end Statement

end Recipe
