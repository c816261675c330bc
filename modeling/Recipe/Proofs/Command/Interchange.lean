import Mathlib
import Recipe.Command.Document
import Recipe.Proofs.Field.Similar
import Recipe.Proofs.Statement.ClauseOrder

/-! What becomes of a recipe that is written as JSON and read again. Its keys come back sorted, so clauses
keep their meaning only where they were in the order of their keys. -/

namespace Recipe.Command

open Statement (parse)

theorem document_render {file : String} {v : Value} (hj : isJson file) (hf : ∀ x, .float x ∉ v.scalars)
    (hl : v.levels ≤ Json.maxDepth) : document file (.ok v.render) = .ok v.sortKeys := by
  change (if isJson file then (Json.read v.render).mapError _ else _) = _
  rw [if_pos hj, v.read_render hf hl]
  rfl

/-- What holds of a recipe and of the one that comes back from its JSON text. -/
structure Interchange (file : String) (o : Options) (env : Environment) (f : FieldSpec) (v : Value) :
    Prop where
  document_eq : document file (.ok v.render) = .ok v.sortKeys
  same_tree_iff : ∀ s, parse o v = .ok s →
    ((∃ t, parse o v.sortKeys = .ok t ∧ s.Similar .lenient t) ↔ v.ClausesSorted)
  else_refused : ∀ es, v = .mapping es → Clause.elseWord ∈ Entries.keys es →
    (parse o v.sortKeys).isOk = false
  same_result : v.GrammarSorted →
    Leniency.strict.Agree Value.Similar (f.resolveRaw o env v) (f.resolveRaw o env v.sortKeys)
  same_value : v.ClausesSorted → ∀ x y, f.resolveRaw o env v = .ok x →
    f.resolveRaw o env v.sortKeys = .ok y → x.Similar y
  same_failure : v.ClausesSorted → v.hasTry = false →
    (f.resolveRaw o env v).isOk = (f.resolveRaw o env v.sortKeys).isOk

theorem json_interchange {file : String} {v : Value} (hj : isJson file) (hf : ∀ x, .float x ∉ v.scalars)
    (hl : v.levels ≤ Json.maxDepth) (hd : v.Distinct) (o : Options) (env : Environment) (f : FieldSpec) :
    Interchange file o env f v where
  document_eq := document_render hj hf hl
  same_tree_iff := fun _ h => Statement.parse_sortKeys_similar_iff h hd
  else_refused := by
    rintro es rfl he
    cases hp : parse o (Value.mapping es).sortKeys with
    | error e => rfl
    | ok s =>
      obtain ⟨g, hs⟩ := Statement.parse_eq_ok_iff.1 hp
      exact (Statement.not_readAs_sortKeys_of_else hd he ⟨_, _, _, hs⟩).elim
  same_result := fun h => f.resolveRaw_similar o env (h.reordered hd)
  same_value := by
    intro h x y hx hy
    have hxy := f.resolveRaw_similar o env (h.reordered hd)
    rw [hx, hy] at hxy
    exact hxy.of_ok
  same_failure := fun h ht => (f.resolveRaw_similar o env (h.reordered_tryless hd ht)).isOk_iff

def source : FieldSpec := ⟨"source", .scalar, .any, false⟩

def orderedClauses : Value :=
  .mapping [("on amd64", .mapping [("version", .integer 2), ("name", .string "gcc")]),
    ("to arm64", .string "clang")]

theorem json_interchange_orderedClauses : isJson "recipe.json" ∧ (∀ x, .float x ∉ orderedClauses.scalars) ∧
    orderedClauses.levels ≤ Json.maxDepth ∧ orderedClauses.Distinct ∧ orderedClauses.GrammarSorted ∧
    orderedClauses.sortKeys ≠ orderedClauses ∧
    Interchange "recipe.json" {} (.native "amd64") source orderedClauses := by
  have hj : isJson "recipe.json" := by decide
  have hf : ∀ x, .float x ∉ orderedClauses.scalars := by
    simp [orderedClauses, Value.scalars, Value.scalarsEntries]
  have hl : orderedClauses.levels ≤ Json.maxDepth := by decide
  have hd : orderedClauses.Distinct := by
    simp [orderedClauses, Value.Distinct, Value.DistinctEntries]
  have hs : orderedClauses.GrammarSorted := by
    refine ⟨fun _ => by decide, ⟨?_, trivial, trivial, trivial⟩, trivial, trivial⟩
    intro hp
    exact absurd hp (by decide)
  exact ⟨hj, hf, hl, hd, hs, by decide, json_interchange hj hf hl hd {} (.native "amd64") source⟩

def clauseElse : Value := .mapping [("on amd64", .string "gcc"), ("else", .string "clang")]

theorem clauseElse_not_interchanged :
    document "recipe.json" (.ok clauseElse.render) = .ok clauseElse.sortKeys ∧
    source.resolveRaw {} (.native "amd64") clauseElse = .ok (.string "gcc") ∧
    source.resolveRaw {} (.native "amd64") clauseElse.sortKeys = .error (.malformed .danglingElse) := by
  refine ⟨document_render (by decide) ?_ (by decide), ?_, ?_⟩
  · simp [clauseElse, Value.scalars, Value.scalarsEntries]
  · cbv
  · cbv

end Recipe.Command
