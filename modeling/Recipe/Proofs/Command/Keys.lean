import Mathlib
import Recipe.Command.Report
import Recipe.Proofs.Json.Distinct
import Recipe.Proofs.Yaml.Build

namespace Recipe.Command

theorem distinct_of_document {file : String} {content : Except ReadError String} {v : Value}
    (h : document file content = .ok v) : v.Distinct := by
  obtain ⟨text, -, h⟩ := Except.bind_eq_ok.1 h
  split at h
  · exact Json.distinct_of_read (Except.mapError_eq_ok.1 h)
  · exact Yaml.distinct_of_load (Except.mapError_eq_ok.1 h)

theorem field_mapping (es : Entries Value) (k : String) : (Value.mapping es).field k = (es.get? k).getD .unset :=
  rfl

theorem field_of_mem {es : Entries Value} {k : String} {v : Value} (h : es.keys.Nodup) (hm : (k, v) ∈ es) :
    (Value.mapping es).field k = v := by
  rw [field_mapping, Entries.get?_of_mem h hm, Option.getD_some]

def entry? (k : String) : Except Failure Value → Option (String × Value)
  | .ok v => if v.isUnset then none else some (k, v)
  | .error _ => none

namespace EvalArguments

variable {a : EvalArguments} {es fs : Entries Value} {r : String → Except Failure Value} {f : Failure}

theorem evaluate_of_mem {k : String} {v : Value} (h : es.keys.Nodup) (hm : (k, v) ∈ es) :
    evaluate { a with key := some k } (.mapping es) = a.evaluateField k v := by
  change a.evaluateField k ((Value.mapping es).field k) = _
  rw [field_of_mem h hm]

theorem evaluateFields_eq_ok (hr : ∀ e ∈ es, a.evaluateField e.1 e.2 = r e.1) :
    a.evaluateFields es = .ok fs ↔
      (∀ k ∈ es.keys, ∃ v, r k = .ok v) ∧ fs = es.keys.filterMap fun k => entry? k (r k) := by
  induction es generalizing fs with
  | nil =>
    rw [evaluateFields, Except.ok.injEq]
    simp [eq_comm]
  | cons e es ih =>
    obtain ⟨he, hes⟩ := List.forall_mem_cons.1 hr
    rw [evaluateFields, he, Except.bind_eq_ok, Entries.keys_cons, List.forall_mem_cons, List.filterMap_cons]
    constructor
    · rintro ⟨v, hv, h⟩
      obtain ⟨gs, hgs, h⟩ := Except.bind_eq_ok.1 h
      obtain ⟨hk, rfl⟩ := (ih hes).1 hgs
      refine ⟨⟨⟨v, hv⟩, hk⟩, ?_⟩
      cases h
      rw [hv, entry?]
      cases v.isUnset <;> rfl
    · rintro ⟨⟨⟨v, hv⟩, hk⟩, rfl⟩
      refine ⟨v, hv, ?_⟩
      rw [(ih hes).2 ⟨hk, rfl⟩, hv, entry?]
      cases v.isUnset <;> rfl

theorem evaluateFields_eq_error (hr : ∀ e ∈ es, a.evaluateField e.1 e.2 = r e.1) :
    a.evaluateFields es = .error f ↔ ∃ before k after, es.keys = before ++ k :: after ∧
      (∀ l ∈ before, ∃ v, r l = .ok v) ∧ r k = .error f := by
  induction es with
  | nil => simp [evaluateFields]
  | cons e es ih =>
    obtain ⟨he, hes⟩ := List.forall_mem_cons.1 hr
    rw [evaluateFields, he, Except.bind_eq_error, Entries.keys_cons]
    constructor
    · rintro (h | ⟨v, hv, h⟩)
      · exact ⟨[], e.1, Entries.keys es, rfl, by simp, h⟩
      · obtain h | ⟨gs, -, h⟩ := Except.bind_eq_error.1 h
        · obtain ⟨before, k, after, hk, hb, hf⟩ := (ih hes).1 h
          exact ⟨e.1 :: before, k, after, by rw [hk, List.cons_append],
            List.forall_mem_cons.2 ⟨⟨v, hv⟩, hb⟩, hf⟩
        · cases h
    · rintro ⟨before, k, after, hk, hb, hf⟩
      cases before with
      | nil =>
        rw [List.nil_append, List.cons.injEq] at hk
        obtain ⟨rfl, -⟩ := hk
        exact .inl hf
      | cons l before =>
        rw [List.cons_append, List.cons.injEq] at hk
        obtain ⟨rfl, hk⟩ := hk
        obtain ⟨⟨v, hv⟩, hb⟩ := List.forall_mem_cons.1 hb
        refine .inr ⟨v, hv, Except.bind_eq_error.2 (.inl ?_)⟩
        exact (ih hes).2 ⟨before, k, after, hk, hb, hf⟩

end EvalArguments

/-- A document and its keys one by one. The whole is evaluated if and only if each key is, to the mapping of
what these yield in the order of the document, where a key without a value is left out. If the whole fails,
it fails as the first key does that fails. -/
theorem evaluate_keys {file : String} {content : Except ReadError String} {es : Entries Value}
    (h : document file content = .ok (.mapping es)) (a : EvalArguments) :
    let whole := document file content >>= EvalArguments.evaluate { a with key := none }
    let single (k : String) := document file content >>= EvalArguments.evaluate { a with key := some k }
    es.keys.Nodup ∧
    ((∃ v, whole = .ok v) ↔ ∀ k ∈ es.keys, ∃ v, single k = .ok v) ∧
    (∀ v, whole = .ok v → v = .mapping (es.keys.filterMap fun k => entry? k (single k))) ∧
    (∀ f, whole = .error f ↔ ∃ before k after, es.keys = before ++ k :: after ∧
      (∀ l ∈ before, ∃ v, single l = .ok v) ∧ single k = .error f) := by
  intro whole single
  have hn : es.keys.Nodup := (distinct_of_document h).1
  have hr : ∀ e ∈ es, EvalArguments.evaluateField { a with key := none } e.1 e.2 = single e.1 := by
    intro e he
    change _ = document file content >>= _
    rw [h, Except.ok_bind, EvalArguments.evaluate_of_mem hn he]
    rfl
  have hw : whole = .mapping <$> EvalArguments.evaluateFields { a with key := none } es := by
    change document file content >>= _ = _
    rw [h]
    rfl
  rw [hw]
  refine ⟨hn, ⟨?_, ?_⟩, ?_, ?_⟩
  · rintro ⟨v, hv⟩
    obtain ⟨fs, hfs, rfl⟩ := Except.map_eq_ok.1 hv
    exact ((EvalArguments.evaluateFields_eq_ok hr).1 hfs).1
  · intro hk
    exact ⟨_, Except.map_eq_ok.2 ⟨_, (EvalArguments.evaluateFields_eq_ok hr).2 ⟨hk, rfl⟩, rfl⟩⟩
  · intro v hv
    obtain ⟨fs, hfs, rfl⟩ := Except.map_eq_ok.1 hv
    rw [((EvalArguments.evaluateFields_eq_ok hr).1 hfs).2]
  · intro f
    rw [Except.map_eq_error, EvalArguments.evaluateFields_eq_error hr]

def partText : String :=
  "\x7b\"plugin\": \"make\", \"clean\": \x7b\"on i386\": \"rm\"\x7d, \"build\": 1\x7d"

def parts : Entries Value :=
  [("build", .integer 1), ("clean", .mapping [("on i386", .string "rm")]), ("plugin", .string "make")]

theorem evaluate_keys_parts :
    document "parts.json" (.ok partText) = .ok (.mapping parts) ∧
    (document "parts.json" (.ok partText) >>= EvalArguments.evaluate { env := .native "amd64" }) =
      .ok (.mapping [("build", .integer 1), ("plugin", .string "make")]) ∧
    (document "parts.json" (.ok partText) >>=
        EvalArguments.evaluate { env := .native "amd64", required := true }) =
      .error (.resolve "clean" (.unmatched (some "clean"))) := by
  have hd : document "parts.json" (.ok partText) = .ok (.mapping parts) := by cbv
  have hbuild (required : Bool) : document "parts.json" (.ok partText) >>= EvalArguments.evaluate
      { env := .native "amd64", required := required, key := some "build" } = .ok (.integer 1) := by
    rw [hd]
    cases required <;> cbv
  have hclean : document "parts.json" (.ok partText) >>= EvalArguments.evaluate
      { env := .native "amd64", key := some "clean" } = .ok .unset := by
    rw [hd]
    cbv
  have hplugin : document "parts.json" (.ok partText) >>= EvalArguments.evaluate
      { env := .native "amd64", key := some "plugin" } = .ok (.string "make") := by
    rw [hd]
    cbv
  obtain ⟨-, hok, hvalue, -⟩ := evaluate_keys hd { env := .native "amd64" }
  obtain ⟨-, -, -, herror⟩ := evaluate_keys hd { env := .native "amd64", required := true }
  refine ⟨hd, ?_, (herror _).2 ⟨["build"], "clean", ["plugin"], by decide, ?_, ?_⟩⟩
  · simp only [parts, Entries.keys_cons, Entries.keys_nil, List.forall_mem_cons, List.filterMap_cons,
      List.filterMap_nil, hbuild, hclean, hplugin] at hok hvalue
    obtain ⟨v, hv⟩ := hok.2 ⟨⟨_, rfl⟩, ⟨_, rfl⟩, ⟨_, rfl⟩, by simp⟩
    rw [hv, hvalue v hv]
    rfl
  · exact List.forall_mem_singleton.2 ⟨_, hbuild true⟩
  · rw [hd]
    cbv

end Recipe.Command
