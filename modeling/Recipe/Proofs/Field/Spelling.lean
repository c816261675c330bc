import Recipe.Proofs.Evaluation.Ambiguity
import Recipe.Proofs.Field.Concatenation
import Recipe.Proofs.Statement.Spelling

namespace Recipe

open Clause (Head isReserved)

theorem Value.contribution_eq_items {v : Value} (hv : v.isUnset = false) :
    v.contribution true = v.items := by
  cases v with
  | unset => cases hv
  | scalar | sequence | mapping => rfl

def Settings.alone (σ : Settings) (v : Value) : Value :=
  if σ.asList && !v.isUnset then .sequence v.items else v

namespace Statement

variable {σ : Settings} {s : Statement}

theorem settle_alone (env : Environment) (s : Statement) (v : Value) : settle env s [] v = .ok v := by
  rw [settle]
  cases s.head? with
  | none => rfl
  | some h =>
    have hr : h.rival? [] env = none := by
      rw [Head.rival?]
      split <;> rfl
    dsimp only
    rw [hr]

theorem eval_heads_singleton (path : List Statement) : eval σ path (heads [s]) s = eval σ path [] s := by
  apply eval_alone
  intro h hh ho g hg
  obtain rfl : g = h := by simpa [heads, Option.mem_def.1 hh] using hg
  exact ho

theorem evaluate_singleton (hs : s.isClause) :
    evaluate σ (.sequence [s]) = σ.alone <$> evaluate σ s := by
  have hst : start [s] = .nothing := start_of_clauses (List.forall_mem_singleton.2 hs) (List.cons_ne_nil s [])
  rw [evaluate, eval, hst, evalItems, eval_heads_singleton, evaluate, hs]
  cases eval σ [] [] s with
  | error e => rfl
  | ok v =>
    change _ = Except.ok (σ.alone v)
    rw [Except.ok_bind, Settings.alone]
    cases hu : v.isUnset with
    | true =>
      obtain rfl := Value.eq_unset hu
      rw [Bool.not_true, Bool.and_false]
      rfl
    | false =>
      dsimp only
      rw [if_neg Bool.false_ne_true]
      cases hl : σ.asList with
      | true =>
        -- a list is spliced in, and anything else is put into one, as the field would do later
        rw [Gathered.settles_asList, if_neg Bool.false_ne_true, Gathered.add_asList rfl,
          Value.contribution_eq_items hu]
        rfl
      | false =>
        cases v with
        | unset => cases hu
        | scalar u => exact settle_alone σ.env s _
        | sequence | mapping => rfl

end Statement

namespace FieldSpec

variable {f : FieldSpec}

theorem normalize_alone (env : Environment) (v : Value) :
    f.normalize ((f.settings env).alone v) = f.normalize v := by
  obtain ⟨name, shape, leaf, required⟩ := f
  cases shape with
  | list =>
    cases v <;> simp [Settings.alone, settings, Settings.asList, Value.isUnset, Value.items, normalize]
  | scalar | mapping => rfl

theorem resolve_singleton (env : Environment) {s : Statement} (hs : s.isClause) :
    f.resolve env (.sequence [s]) = f.resolve env s := by
  rw [resolve, resolve, Statement.evaluate_singleton hs, map_eq_pure_bind, bind_assoc]
  simp only [pure_bind, normalize_alone]

theorem resolve_ofClauses (env : Environment) {ss : List Statement} (hs : ∀ s ∈ ss, s.isClause) :
    f.resolve env (Statement.ofClauses ss) = f.resolve env (.sequence ss) := by
  match ss, hs with
  | [s], hs => exact (resolve_singleton env (hs s List.mem_cons_self)).symm
  | [], _ | _ :: _ :: _, _ => rfl

theorem resolveRaw_wrapped (f : FieldSpec) (env : Environment) {o : Options}
    {es : List (String × Value)} (hr : hasReserved es)
    (hd : (Value.mapping es).nesting + 1 ≤ o.maxDepth) :
    f.resolveRaw o env (.mapping es) = f.resolveRaw o env (.sequence [.mapping es]) := by
  rw [resolveRaw, resolveRaw, Statement.parse, Statement.parse, Statement.parseValue_clauses hr,
    Statement.parseValue_wrapped hr hd]
  simp only [StateT.run'_eq, StateT.run_map, Functor.map_map]
  cases hp : (Statement.parseAlternation o es).run o.variant.guard with
  | error e => rfl
  | ok r => exact f.resolve_ofClauses env (Statement.isClause_of_parseAlternation hp)

/-- A mapping of clauses that is an item may be written as one mapping for each of its entries, and it makes
no difference to a field whether the mapping stands by itself or is the only item of a sequence. -/
theorem clauses_spelled_alike (o : Options) {es : List (String × Value)} (hne : es ≠ [])
    (hr : ∀ e ∈ es, isReserved e.1) :
    (∀ vs ws, Statement.parse o (.sequence (vs ++ .mapping es :: ws)) =
      Statement.parse o (.sequence (vs ++ (es.map fun e => .mapping [e]) ++ ws))) ∧
    ((Value.mapping es).nesting + 1 ≤ o.maxDepth → ∀ (f : FieldSpec) env,
      f.resolveRaw o env (.mapping es) = f.resolveRaw o env (.sequence [.mapping es])) := by
  constructor
  · intro vs ws
    rw [Statement.parse, Statement.parse, Statement.parseValue_singles hne hr]
    rfl
  · intro hd f env
    exact f.resolveRaw_wrapped env (Statement.hasReserved_of_forall hne hr) hd

def choice : List (String × Value) := [("on amd64", .string "gcc"), ("else", .sequence [.string "cc"])]

def shallow : Options := { maxDepth := 3 }

def source : FieldSpec := { name := "source", shape := .scalar, leaf := .string }

theorem clauses_spelled_alike_choice :
    choice ≠ [] ∧ (∀ e ∈ choice, isReserved e.1) ∧
      Statement.parse shallow
          (.sequence ([.string "make"] ++ .mapping choice :: [.string "else fail"])) =
        Statement.parse shallow (.sequence [.string "make", .mapping [("on amd64", .string "gcc")],
          .mapping [("else", .sequence [.string "cc"])], .string "else fail"]) ∧
      (Value.mapping choice).nesting + 1 ≤ shallow.maxDepth ∧
      source.resolveRaw shallow (.native "i386") (.mapping choice) =
        source.resolveRaw shallow (.native "i386") (.sequence [.mapping choice]) ∧
      source.resolveRaw shallow (.native "i386") (.mapping choice) =
        .ok (.string "cc") := by
  have hne : choice ≠ [] := by decide
  have hr : ∀ e ∈ choice, isReserved e.1 := by decide
  have hd : (Value.mapping choice).nesting + 1 ≤ shallow.maxDepth := by decide
  obtain ⟨hp, hf⟩ := clauses_spelled_alike shallow hne hr
  exact ⟨hne, hr, hp _ _, hd, hf hd source _, by cbv⟩

end FieldSpec

end Recipe
