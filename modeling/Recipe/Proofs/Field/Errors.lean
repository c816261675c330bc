import Mathlib
import Recipe.Proofs.Evaluation.Causes
import Recipe.Proofs.Field.Normalize
import Recipe.Proofs.Statement.Refusal

namespace Recipe

namespace FieldSpec

open Statement (parse evaluate PartOf head? isClause)

variable {f : FieldSpec} {o : Options} {env : Environment} {raw : Value}

theorem resolveRaw_construction_iff :
    (∃ e, f.resolveRaw o env raw = .error e ∧ e.isConstruction) ↔ ∃ e, parse o raw = .error e := by
  constructor
  · rintro ⟨e, he, hc⟩
    rcases resolveRaw_eq_error.1 he with he | ⟨t, -, he | ⟨v, -, he⟩⟩
    · exact ⟨e, he⟩
    · obtain ⟨_, _, _, rfl⟩ | ⟨_, _, rfl⟩ | ⟨_, rfl⟩ := (Statement.causes_of_evaluate he).eq_or <;> cases hc
    · obtain ⟨-, -, rfl⟩ | ⟨_, _, rfl⟩ := normalize_eq_error he <;> cases hc
  · rintro ⟨e, he⟩
    refine ⟨e, resolveRaw_eq_error.2 (.inl he), ?_⟩
    obtain ⟨_, rfl⟩ | ⟨_, _, rfl⟩ := (Statement.refusal_of_parse he).eq_or <;> rfl

theorem resolveRaw_unmatched_iff {name : Option String} :
    f.resolveRaw o env raw = .error (.unmatched name) ↔ name = some f.name ∧
      ∃ t, parse o raw = .ok t ∧ f.required ∧ evaluate (f.settings env) t = .ok .unset := by
  rw [resolveRaw_eq_error]
  constructor
  · rintro (he | ⟨t, ht, he | ⟨v, hv, he⟩⟩)
    · obtain ⟨_, ⟨⟩⟩ | ⟨_, _, ⟨⟩⟩ := (Statement.refusal_of_parse he).eq_or
    · obtain ⟨_, _, _, ⟨⟩⟩ | ⟨_, _, ⟨⟩⟩ | ⟨_, ⟨⟩⟩ := (Statement.causes_of_evaluate he).eq_or
    · obtain ⟨rfl, hr, ⟨⟩⟩ | ⟨_, _, ⟨⟩⟩ := normalize_eq_error he
      exact ⟨rfl, t, ht, hr, hv⟩
  · rintro ⟨rfl, t, ht, hr, hv⟩
    refine .inr ⟨t, ht, .inr ⟨.unset, hv, ?_⟩⟩
    rw [normalize_unset, if_pos hr]

/-- Every error has its cause in the recipe, however many alternatives of a `try` were tried before it: a
clause with an `else fail`, two clauses of one kind that name the environment, or clauses of which one
yields a mapping and another does not. A field tells the three stages apart by the kind of error. -/
theorem errors_have_causes (f : FieldSpec) (o : Options) (env : Environment) (raw : Value) (σ : Settings)
    (t : Statement) :
    (∀ e, parse o raw = .error e → (∃ m, e = .malformed m) ∨ ∃ s k, e = .unknownSelector s k) ∧
    (∀ e, evaluate σ t = .error e → (∃ h g subject, e = .ambiguous h g subject) ∨
      (∃ expected v, e = .mismatch expected v) ∨ ∃ h, e = .unsatisfied h) ∧
    (∀ h, evaluate σ t = .error (.unsatisfied h) →
      ∃ b bs, PartOf (.clause h b bs) t ∧ .fail ∈ bs) ∧
    (∀ h g subject, evaluate σ t = .error (.ambiguous h g subject) →
      ∃ ss, PartOf (.sequence ss) t ∧ ∃ i j : Nat, i ≠ j ∧ ss[i]?.bind head? = some h ∧
        ss[j]?.bind head? = some g ∧ g.kind = h.kind ∧ h.kind.subject? σ.env = some subject ∧
          h.selectedByName σ.env ∧ g.selectedByName σ.env) ∧
    (σ.validator = none → ∀ expected v, evaluate σ t = .error (.mismatch expected v) →
      ∃ ss, PartOf (.sequence ss) t ∧ 2 ≤ ss.length ∧ ∀ s ∈ ss, s.isClause) ∧
    ((∃ e, f.resolveRaw o env raw = .error e ∧ e.isConstruction) ↔ ∃ e, parse o raw = .error e) ∧
    (∀ name, f.resolveRaw o env raw = .error (.unmatched name) ↔ name = some f.name ∧
      ∃ t, parse o raw = .ok t ∧ f.required ∧ evaluate (f.settings env) t = .ok .unset) := by
  refine ⟨?_, ?_, ?_, ?_, ?_, resolveRaw_construction_iff, fun _ => resolveRaw_unmatched_iff⟩
  · exact fun e he => (Statement.refusal_of_parse he).eq_or
  · exact fun e he => (Statement.causes_of_evaluate he).eq_or
  · exact fun h he => (Statement.causes_of_evaluate he).fail_of_unsatisfied
  · exact fun h g subject he => (Statement.causes_of_evaluate he).rivals_of_ambiguous
  · exact fun hv expected v he => (Statement.causes_of_evaluate he).clauses_of_mismatch hv

def forcedRecipe : Value :=
  .mapping [("try", .sequence [.mapping [("on amd64", .mapping [("a", .integer 1)])],
      .mapping [("to amd64", .string "b")]]),
    ("else", .mapping [("to i386", .string "c"), ("else", .unset)])]

def metBody : Statement :=
  .sequence [.clause (.host (.ofList ["amd64"])) (.leaf (.mapping [("a", .integer 1)])) [],
    .clause (.target (.ofList ["amd64"])) (.leaf (.string "b")) []]

def forcedTree : Statement :=
  .clause .attempt metBody
    [.body (.clause (.target (.ofList ["i386"])) (.leaf (.string "c")) [.fail])]

def licence : FieldSpec := { name := "license", shape := .scalar, leaf := .string, required := true }

theorem errors_have_causes_forced :
    parse {} forcedRecipe = .ok forcedTree ∧
    evaluate { env := .native "amd64" } forcedTree = .error (.unsatisfied (.target (.ofList ["i386"]))) ∧
    (∃ b bs, PartOf (.clause (.target (.ofList ["i386"])) b bs) forcedTree ∧ .fail ∈ bs) ∧
    evaluate { env := .native "amd64" } metBody = .error (.mismatch "a mapping" (.string "b")) ∧
    (∃ ss, PartOf (.sequence ss) metBody ∧ 2 ≤ ss.length ∧ ∀ s ∈ ss, s.isClause) ∧
    licence.resolveRaw {} (.native "amd64") (.mapping [("on i386", .string "GPL")]) =
      .error (.unmatched (some "license")) := by
  have hp : parse {} forcedRecipe = .ok forcedTree := by cbv
  have hf : evaluate { env := .native "amd64" } forcedTree =
      .error (.unsatisfied (.target (.ofList ["i386"]))) := by cbv
  have hm : evaluate { env := .native "amd64" } metBody =
      .error (.mismatch "a mapping" (.string "b")) := by cbv
  have hc := errors_have_causes licence {} (.native "amd64") (.mapping [("on i386", .string "GPL")])
    { env := .native "amd64" }
  obtain ⟨-, -, hfail, -, -, -, hname⟩ := hc forcedTree
  obtain ⟨-, -, -, -, hmerge, -⟩ := hc metBody
  refine ⟨hp, hf, hfail _ hf, hm, hmerge rfl _ _ hm, (hname _).2 ⟨rfl, ?_⟩⟩
  exact ⟨.clause (.host (.ofList ["i386"])) (.leaf (.string "GPL")) [], by cbv, rfl, by cbv⟩

end FieldSpec

end Recipe
