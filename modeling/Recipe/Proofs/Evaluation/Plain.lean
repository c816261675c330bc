import Mathlib
import Recipe.Proofs.Evaluation.Selection
import Recipe.Proofs.Statement.Plain

namespace Recipe

open Clause (Head)

namespace Statement

variable {o : Options}

mutual

theorem eval_ofPlain {σ : Settings} (hσ : σ.Verbatim) (path : List Statement) (siblings : List Head) :
    ∀ v : Value, v.hasNullItem = false → eval σ path siblings (ofPlain v) = .ok v
  | .unset, _ => rfl
  | .scalar s, _ => (eval_leaf (by simp)).trans (hσ.leaf path (.scalar s))
  | .sequence vs, h => by
    rw [ofPlain, eval, start_of_hasClauseList (hasClause_ofPlainList vs)]
    exact evalItems_ofPlain hσ path _ [] [] vs h
  | .mapping es, _ => (eval_leaf (by simp)).trans (hσ.leaf path (.mapping es))

theorem evalItems_ofPlain {σ : Settings} (hσ : σ.Verbatim) (path : List Statement)
    (siblings before : List Head) (ws : List Value) : ∀ vs : List Value,
      Value.hasNullItemList vs = false →
        evalItems σ path siblings before (.list ws) (ofPlainList vs) = .ok (.sequence (ws ++ vs))
  | [], _ => by rw [List.append_nil]; rfl
  | v :: vs, h => by
    simp only [Value.hasNullItemList, Bool.or_eq_false_iff] at h
    have hc : v.contribution (ofPlain v).isClause = [v] := by
      cases v <;> rfl
    have hvs := evalItems_ofPlain hσ path siblings (before ++ (ofPlain v).head?.toList) (ws ++ [v]) vs h.2
    rw [List.append_assoc] at hvs
    rw [ofPlainList, evalItems, eval_ofPlain hσ path siblings v h.1.2, Except.ok_bind]
    dsimp only
    rw [h.1.1, if_neg Bool.false_ne_true, Gathered.add, hc]
    exact hvs

end

/-- A recipe without grammar is read as a tree without clauses, whose value is the recipe itself wherever it
is evaluated. A tree that is read has a clause if and only if the recipe has a reserved key somewhere. -/
theorem evaluate_plain (o : Options) (raw : Value) :
    (raw.reserves = false → raw.hasNullItem = false → raw.hasFailItem = false →
      raw.nesting ≤ o.maxDepth → ∃ t, parse o raw = .ok t ∧ t.hasClause = false ∧
        ∀ env shape, evaluate ⟨env, none, none, shape⟩ t = .ok raw) ∧
    ∀ t, parse o raw = .ok t → (t.hasClause ↔ raw.reserves) := by
  constructor
  · intro hr hn hf hd
    refine ⟨ofPlain raw, parse_of_plain ?_ hd, hasClause_ofPlain raw, ?_⟩
    · exact raw.plain_iff.2 ⟨hr, hn, hf⟩
    · intro env shape
      exact eval_ofPlain ⟨rfl, rfl⟩ [] [] raw hn
  · intro t ht
    obtain ⟨g, h⟩ := parse_eq_ok_iff.1 ht
    rw [h.hasClause_eq]

def partsRecipe : Value :=
  .mapping [("once", .unset), ("parts", .sequence [.sequence [], .sequence [.string "on amd64"], .integer 1]),
    ("note", .string "else fail")]

def entryRecipe : Value :=
  .sequence [.string "a", .mapping [("k", .sequence [.mapping [("to other", .string "b")]])]]

def entryTree : Statement :=
  .sequence [.leaf (.string "a"),
    .mapping [("k", .sequence [.clause (.target (.ofList ["other"])) (.leaf (.string "b")) []])]]

theorem evaluate_plain_parts :
    (partsRecipe.reserves = false ∧ partsRecipe.hasNullItem = false ∧ partsRecipe.hasFailItem = false ∧
      partsRecipe.nesting ≤ 3 ∧ ∃ t, parse { maxDepth := 3 } partsRecipe = .ok t ∧ t.hasClause = false ∧
        evaluate ⟨.native "amd64", none, none, some .list⟩ t = .ok partsRecipe) ∧
    parse {} entryRecipe = .ok entryTree ∧ entryTree.hasClause ∧ entryRecipe.reserves := by
  have hr : partsRecipe.reserves = false := by decide
  have hn : partsRecipe.hasNullItem = false := by decide
  have hf : partsRecipe.hasFailItem = false := by decide
  have hd : partsRecipe.nesting ≤ 3 := by decide
  obtain ⟨t, ht, hc, he⟩ := (evaluate_plain { maxDepth := 3 } partsRecipe).1 hr hn hf hd
  have hp : parse {} entryRecipe = .ok entryTree := by cbv
  have hg : entryTree.hasClause := rfl
  exact ⟨⟨hr, hn, hf, hd, t, ht, hc, he _ _⟩, hp, hg, ((evaluate_plain {} entryRecipe).2 _ hp).1 hg⟩

end Statement

end Recipe
