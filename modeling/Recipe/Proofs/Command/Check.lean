import Mathlib
import Recipe.Proofs.Command.Keys

namespace Recipe.Command

open Statement (parse)

theorem parse_unset (o : Options) : parse o .unset = .ok (.leaf .unset) := by
  rw [parse, Statement.parseValue, Parse.within, if_neg (Nat.not_lt_zero _)]
  rfl

theorem Failure.message_eq_grammar {f : Failure} {k : String} :
    f.message = s!"invalid grammar in '{k}'" ↔ ∃ e, f = .grammar k e := by
  constructor
  · intro h
    have hl := congrArg String.toList h
    cases f with
    | grammar l e =>
      change s!"invalid grammar in '{l}'".toList = _ at hl
      simp only [toString, String.toList_append, List.append_cancel_left_eq, List.append_cancel_right_eq,
        String.toList_inj] at hl
      exact ⟨e, by rw [hl]⟩
    | read file =>
      change s!"failed to read {file}".toList = _ at hl
      simp [toString] at hl
    | json file =>
      change s!"failed to parse JSON from {file}".toList = _ at hl
      simp [toString] at hl
    | yaml file =>
      change s!"failed to parse YAML from {file}".toList = _ at hl
      simp [toString] at hl
    | resolve l =>
      change s!"failed to resolve '{l}'".toList = _ at hl
      simp [toString] at hl
  · rintro ⟨e, rfl⟩
    rfl

theorem nodup_fields {v : Value} (h : v.Distinct) : (fields v).keys.Nodup := by
  cases v with
  | mapping es => exact h.1
  | unset | scalar | sequence => exact List.nodup_singleton _

namespace GrammarArguments

variable {g : GrammarArguments} {v : Value} {k : String} {e : GrammarError}

theorem mem_failures :
    (k, e) ∈ g.failures v ↔ ∃ raw, (k, raw) ∈ fields v ∧ parse g.options raw = .error e := by
  rw [failures, List.mem_filterMap]
  constructor
  · rintro ⟨⟨l, raw⟩, hm, h⟩
    dsimp only at h
    split at h <;> cases h
    exact ⟨raw, hm, by assumption⟩
  · rintro ⟨raw, hm, h⟩
    exact ⟨(k, raw), hm, by simp only [h]⟩

theorem failures_sublist : ((g.failures v).map Prod.fst).Sublist (fields v).keys := by
  rw [failures]
  induction fields v with
  | nil => exact .slnil
  | cons e es ih =>
    obtain ⟨k, raw⟩ := e
    rw [List.filterMap_cons, Entries.keys_cons]
    dsimp only
    cases parse g.options raw with
    | ok s => exact ih.cons _
    | error e => exact ih.cons_cons _

theorem exit_eq_zero {file : String} :
    (Outcome.ofFailures file (g.failures v)).exit = 0 ↔ g.failures v = [] := by
  cases g.failures v <;> simp [Outcome.ofFailures]

end GrammarArguments

namespace EvalArguments

variable {a : EvalArguments} {v raw : Value} {k l : String} {e : GrammarError}

/-- The arguments that ask for one field of a document: by its key, unless the document is the field. -/
def forField (a : EvalArguments) (v : Value) (k : String) : EvalArguments :=
  { a with key := if v.isMapping then some k else none }

theorem evaluateField_eq_grammar :
    a.evaluateField k raw = .error (.grammar l e) ↔ k = l ∧ parse a.grammar.options raw = .error e := by
  rw [evaluateField, Except.bind_eq_error, Except.mapError_eq_error]
  constructor
  · rintro (⟨e', he, h⟩ | ⟨s, -, h⟩)
    · cases h
      exact ⟨rfl, he⟩
    · obtain ⟨e', -, h⟩ := Except.mapError_eq_error.1 h
      cases h
  · rintro ⟨rfl, he⟩
    exact .inl ⟨e, he, rfl⟩

theorem mem_of_parse_field {es : Entries Value} {o : Options}
    (h : parse o ((Value.mapping es).field k) = .error e) : (k, (Value.mapping es).field k) ∈ es := by
  rw [field_mapping] at h ⊢
  cases hk : es.get? k with
  | none =>
    rw [hk, Option.getD_none, parse_unset] at h
    cases h
  | some raw => exact Entries.mem_of_get? hk

theorem evaluate_forField_eq_grammar (hd : v.Distinct) :
    (a.forField v k).evaluate v = .error (.grammar k e) ↔ (k, e) ∈ a.grammar.failures v := by
  rw [GrammarArguments.mem_failures]
  cases v with
  | mapping es =>
    change a.evaluateField k _ = _ ↔ _
    rw [evaluateField_eq_grammar]
    constructor
    · rintro ⟨-, h⟩
      exact ⟨_, mem_of_parse_field h, h⟩
    · rintro ⟨raw, hm, h⟩
      rw [field_of_mem hd.1 hm]
      exact ⟨rfl, h⟩
  | unset | scalar | sequence =>
    change a.evaluateField documentName _ = _ ↔ _
    rw [evaluateField_eq_grammar]
    simp [fields, eq_comm]

theorem evaluateField_of_mem {es : Entries Value} (h : es.keys.Nodup) :
    ∀ f ∈ es, a.evaluateField f.1 f.2 = a.evaluateField f.1 ((Value.mapping es).field f.1) := by
  rintro ⟨k, raw⟩ hm
  rw [field_of_mem h hm]

theorem mem_failures_of_evaluate (hd : v.Distinct) (h : a.evaluate v = .error (.grammar k e)) :
    (k, e) ∈ a.grammar.failures v := by
  rw [GrammarArguments.mem_failures]
  cases hk : a.key with
  | some l =>
    rw [evaluate, hk] at h
    obtain ⟨rfl, hp⟩ := evaluateField_eq_grammar.1 h
    cases v with
    | mapping es => exact ⟨_, mem_of_parse_field hp, hp⟩
    | unset | scalar | sequence =>
      change parse _ .unset = _ at hp
      rw [parse_unset] at hp
      cases hp
  | none =>
    rw [evaluate, hk] at h
    cases v with
    | mapping es =>
      obtain ⟨-, l, -, -, -, hl⟩ :=
        (evaluateFields_eq_error (r := fun k => a.evaluateField k ((Value.mapping es).field k))
          (evaluateField_of_mem hd.1)).1 (Except.map_eq_error.1 h)
      obtain ⟨rfl, hp⟩ := evaluateField_eq_grammar.1 hl
      exact ⟨_, mem_of_parse_field hp, hp⟩
    | unset | scalar | sequence =>
      obtain ⟨rfl, hp⟩ := evaluateField_eq_grammar.1 h
      exact ⟨_, List.mem_singleton_self _, hp⟩

theorem failures_of_evaluateDocument {x : Value} (hd : v.Distinct) (h : a.evaluateDocument v = .ok x) :
    a.grammar.failures v = [] := by
  rw [List.eq_nil_iff_forall_not_mem]
  rintro ⟨k, e⟩ hm
  obtain ⟨raw, hm, hp⟩ := GrammarArguments.mem_failures.1 hm
  have herror : a.evaluateField k raw = .error (.grammar k e) := evaluateField_eq_grammar.2 ⟨rfl, hp⟩
  cases v with
  | mapping es =>
    obtain ⟨fs, hfs, -⟩ := Except.map_eq_ok.1 h
    obtain ⟨hok, -⟩ := (evaluateFields_eq_ok (r := fun k => a.evaluateField k ((Value.mapping es).field k))
      (evaluateField_of_mem hd.1)).1 hfs
    obtain ⟨y, hy⟩ := hok k (List.mem_map_of_mem hm)
    rw [field_of_mem hd.1 hm, herror] at hy
    cases hy
  | unset | scalar | sequence =>
    cases List.mem_singleton.1 hm
    cases herror.symm.trans h

end EvalArguments

/-- What checking a document says of its evaluation with the same grammar. The failures are, in the order of
the document, the fields that evaluation on their own cannot read, for whatever it is. So a document that is
evaluated as a whole for something passes, and of one that passes nothing is ever refused as grammar. -/
theorem check_predicts {file : String} {content : Except ReadError String} {v : Value}
    (h : document file content = .ok v) (g : GrammarArguments) :
    let run (a : EvalArguments) := document file content >>= a.evaluate
    let passes := ((Request.check file g).answer content).exit = 0
    (fields v).keys.Nodup ∧ ((g.failures v).map Prod.fst).Sublist (fields v).keys ∧
    (∀ a : EvalArguments, a.grammar = g → ∀ k e,
      (k, e) ∈ g.failures v ↔ run (a.forField v k) = .error (.grammar k e)) ∧
    (∀ a : EvalArguments, a.grammar = g → a.key = none → (∃ x, run a = .ok x) → passes) ∧
    (passes → ∀ a : EvalArguments, a.grammar = g → ∀ f (k : String), run a = .error f →
      f.message ≠ s!"invalid grammar in '{k}'") := by
  intro run passes
  have hd : v.Distinct := distinct_of_document h
  have hrun (a : EvalArguments) : run a = a.evaluate v := by
    change document file content >>= _ = _
    rw [h]
    rfl
  have hpasses : passes ↔ g.failures v = [] := by
    rw [← GrammarArguments.exit_eq_zero]
    change ((Request.check file g).answer content).exit = 0 ↔ _
    rw [Request.answer, h]
  refine ⟨nodup_fields hd, GrammarArguments.failures_sublist, ?_, ?_, ?_⟩
  · rintro a rfl k e
    rw [hrun, EvalArguments.evaluate_forField_eq_grammar hd]
  · rintro a rfl hk ⟨x, hx⟩
    rw [hrun, EvalArguments.evaluate, hk] at hx
    exact hpasses.2 (EvalArguments.failures_of_evaluateDocument hd hx)
  · rintro hp a rfl f k hf hm
    obtain ⟨e, rfl⟩ := Failure.message_eq_grammar.1 hm
    rw [hrun] at hf
    have hmem := EvalArguments.mem_failures_of_evaluate hd hf
    rw [hpasses.1 hp] at hmem
    cases hmem

def clauseKeyText : String :=
  "\x7b\"on amd64\": [\"a\", \"else fail\"], \"else\": 1, \"try\": \x7b\"on\": 2\x7d\x7d"

def clauseKeys : Value :=
  .mapping [("else", .integer 1), ("on amd64", .sequence [.string "a", .string "else fail"]),
    ("try", .mapping [("on", .integer 2)])]

theorem check_predicts_clauseKeys :
    document "keys.json" (.ok clauseKeyText) = .ok clauseKeys ∧
    GrammarArguments.failures {} clauseKeys =
      [("on amd64", .malformed .danglingElse),
        ("try", .malformed (.clause "on" .host (.selectors .missing)))] ∧
    ((Request.check "keys.json" {}).answer (.ok clauseKeyText)).exit = 1 ∧
    (document "keys.json" (.ok clauseKeyText) >>=
        EvalArguments.evaluate { env := .native "amd64", key := some "on amd64" }) =
      .error (.grammar "on amd64" (.malformed .danglingElse)) := by
  have hd : document "keys.json" (.ok clauseKeyText) = .ok clauseKeys := by cbv
  obtain ⟨-, -, hmem, -⟩ := check_predicts hd {}
  have hf : GrammarArguments.failures {} clauseKeys =
      [("on amd64", .malformed .danglingElse),
        ("try", .malformed (.clause "on" .host (.selectors .missing)))] := by
    cbv
  refine ⟨hd, hf, ?_, ?_⟩
  · rw [Request.answer, hd]
    dsimp only
    rw [hf]
    rfl
  · exact (hmem { env := .native "amd64" } rfl "on amd64" _).1 (hf ▸ List.mem_cons_self)

end Recipe.Command
