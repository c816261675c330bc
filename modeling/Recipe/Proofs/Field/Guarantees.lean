import Mathlib
import Recipe.Proofs.Evaluation.Checked
import Recipe.Proofs.Evaluation.Resolved
import Recipe.Proofs.Field.Normalize

namespace Recipe

namespace LeafType

variable {L : LeafType} {v w : Value}

theorem eq_or_isScalar_of_check (h : L.check v = .ok w) : w = v ∨ w.isScalar := by
  rw [check_eq_ok] at h
  unfold accept? at h
  split at h <;> cases h
  all_goals first
    | exact .inl rfl
    | exact .inr rfl

theorem inert_of_check (hv : v.Inert) (h : L.check v = .ok w) : w.Inert := by
  obtain rfl | hw := eq_or_isScalar_of_check h
  · exact hv
  · cases w with
    | scalar => exact ⟨rfl, rfl⟩
    | unset | sequence | mapping => cases hw

end LeafType

namespace FieldSpec

open Statement (parse evaluate)

variable {f : FieldSpec} {o : Options} {env : Environment} {raw v w : Value}

theorem keepsInert_settings (f : FieldSpec) (env : Environment) : (f.settings env).KeepsInert where
  transform _ _ hv := hv
  validate _ _ hv h := LeafType.inert_of_check hv (Except.mapError_eq_ok.1 h)

theorem merge_inert {es : Entries Value} {vs : List Value} (hes : (Value.mapping es).Inert)
    (hvs : ∀ v ∈ vs, v.Inert) (h : f.merge es vs = .ok w) : w.Inert := by
  induction vs generalizing es with
  | nil =>
    cases h
    exact hes
  | cons v vs ih =>
    rw [List.forall_mem_cons] at hvs
    cases v with
    | mapping fs =>
      refine ih (Value.inert_mapping_iff.2 fun e he => ?_) hvs.2 h
      obtain he | he := Entries.mem_or_mem_of_mem_union he
      · exact Value.inert_mapping_iff.1 hes e he
      · exact Value.inert_mapping_iff.1 hvs.1 e he
    | unset | scalar | sequence => cases h

theorem normalize_inert (hv : v.Inert) (h : f.normalize v = .ok w) : w.Inert := by
  rw [normalize_eq_ok] at h
  generalize f.shape = shape at h
  cases h with
  | unset | scalar | list | mapping => exact hv
  | empty => exact ⟨rfl, rfl⟩
  | item => exact (Value.inert_sequence_iff.1 hv w (List.mem_singleton.2 rfl)).2
  | wrap hu => exact Value.inert_sequence_iff.2 (List.forall_mem_singleton.2 ⟨hu, hv⟩)
  | merge hm => exact merge_inert ⟨rfl, rfl⟩ (fun v hv' => (Value.inert_sequence_iff.1 hv v hv').2) hm

theorem required_of_normalize (hv : v.Inert) (h : f.normalize v = .ok .unset) : f.required = false := by
  rw [normalize_eq_ok] at h
  generalize f.shape = shape at h
  cases h with
  | unset hr => exact hr
  | item => cases (Value.inert_sequence_iff.1 hv .unset (List.mem_singleton.2 rfl)).1
  | merge hm => cases merge_eq_ok hm

theorem isSequence_of_normalize (hs : f.shape = .list) (h : f.normalize v = .ok w) : w.isSequence := by
  rw [normalize_eq_ok, hs] at h
  cases h with
  | unset _ hl => exact absurd rfl hl
  | empty | list | wrap => rfl

theorem isMapping_of_normalize (hs : f.shape = .mapping) (h : f.normalize v = .ok w) :
    w.isMapping ∨ (f.required = false ∧ w = .unset) := by
  rw [normalize_eq_ok, hs] at h
  cases h with
  | unset hr => exact .inr ⟨hr, rfl⟩
  | mapping => exact .inl rfl
  | merge hm => exact .inl (merge_eq_ok hm)

theorem evaluate_inert {t : Statement} (ht : parse o raw = .ok t)
    (hv : evaluate (f.settings env) t = .ok v) : v.Inert := by
  obtain ⟨g, hr⟩ := Statement.parse_eq_ok_iff.1 ht
  exact (Statement.yields_of_eval t hv).inert (f.keepsInert_settings env) hr.wellFormed

def Unmatched (f : FieldSpec) (o : Options) (env : Environment) (raw : Value) : Prop :=
  ∃ t, parse o raw = .ok t ∧ evaluate (f.settings env) t = .ok .unset

theorem resolveRaw_of_unmatched (hu : f.Unmatched o env raw) :
    f.resolveRaw o env raw = f.normalize .unset := by
  obtain ⟨t, ht, hv⟩ := hu
  rw [resolveRaw, ht, Except.ok_bind, resolve, hv, Except.ok_bind]

theorem resolveRaw_required (hu : ¬ f.Unmatched o env raw) (b : Bool) :
    FieldSpec.resolveRaw { f with required := b } o env raw = f.resolveRaw o env raw := by
  rw [resolveRaw, resolveRaw]
  cases ht : parse o raw with
  | error e => rfl
  | ok t =>
    rw [Except.ok_bind, Except.ok_bind, resolve, resolve]
    change evaluate (f.settings env) t >>= _ = _
    cases hv : evaluate (f.settings env) t with
    | error e => rfl
    | ok v =>
      rw [Except.ok_bind, Except.ok_bind]
      exact normalize_required (by rintro rfl; exact hu ⟨t, ht, hv⟩) b

/-- A field is in the shape declared, has no null item at any depth, and is not `unset` where there must be a
value. That there must be one changes nothing where there is one, errors included. -/
theorem resolveRaw_guarantees (f : FieldSpec) (o : Options) (env : Environment) (raw : Value) :
    (∀ v, f.resolveRaw o env raw = .ok v →
      v.hasNullItem = false ∧ (f.required → v ≠ .unset) ∧ (f.shape = .list → v.isSequence) ∧
        (f.shape = .mapping → v.isMapping ∨ (f.required = false ∧ v = .unset))) ∧
    (∀ v, FieldSpec.resolveRaw { f with required := true } o env raw = .ok v ↔
      ¬ f.Unmatched o env raw ∧ FieldSpec.resolveRaw { f with required := false } o env raw = .ok v) ∧
    (f.Unmatched o env raw →
      FieldSpec.resolveRaw { f with required := true } o env raw = .error (.unmatched (some f.name)) ∧
        FieldSpec.resolveRaw { f with required := false } o env raw =
          .ok (if f.shape = .list then .sequence [] else .unset)) ∧
    (¬ f.Unmatched o env raw → FieldSpec.resolveRaw { f with required := true } o env raw =
      FieldSpec.resolveRaw { f with required := false } o env raw) := by
  have hsame (hu : ¬ f.Unmatched o env raw) :
      FieldSpec.resolveRaw { f with required := true } o env raw =
        FieldSpec.resolveRaw { f with required := false } o env raw :=
    (resolveRaw_required hu true).trans (resolveRaw_required hu false).symm
  have hnone (hu : f.Unmatched o env raw) :
      FieldSpec.resolveRaw { f with required := true } o env raw = .error (.unmatched (some f.name)) ∧
        FieldSpec.resolveRaw { f with required := false } o env raw =
          .ok (if f.shape = .list then .sequence [] else .unset) :=
    ⟨resolveRaw_of_unmatched hu, resolveRaw_of_unmatched hu⟩
  refine ⟨?_, ?_, hnone, hsame⟩
  · intro v h
    obtain ⟨t, u, ht, hu, hv⟩ := resolveRaw_eq_ok.1 h
    have hi : u.Inert := evaluate_inert ht hu
    refine ⟨(normalize_inert hi hv).hasNullItem, ?_, ?_, ?_⟩
    · rintro hr rfl
      exact Bool.false_ne_true ((required_of_normalize hi hv).symm.trans hr)
    · exact fun hs => isSequence_of_normalize hs hv
    · exact fun hs => isMapping_of_normalize hs hv
  · intro v
    by_cases hu : f.Unmatched o env raw
    · rw [(hnone hu).1]
      simp [hu]
    · rw [hsame hu]
      simp [hu]

def parts : FieldSpec := { name := "parts", shape := .mapping, leaf := .any }

def partsRecipe : Value :=
  .sequence [.mapping [("a", .integer 1)], .mapping [("on amd64", .sequence [.mapping
    [("a", .integer 2), ("b", .sequence [.mapping [("to i386", .string "c")], .string "d"])]])]]

def partsValue : Value := .mapping [("a", .integer 1), ("b", .sequence [.string "d"])]

theorem resolveRaw_guarantees_parts :
    FieldSpec.resolveRaw { parts with required := true } {} (.native "amd64") partsRecipe = .ok partsValue ∧
      partsValue.hasNullItem = false ∧ (partsValue.isMapping ∨ (parts.required = false ∧ partsValue = .unset)) ∧
      ¬ parts.Unmatched {} (.native "amd64") partsRecipe ∧
      FieldSpec.resolveRaw { parts with required := false } {} (.native "amd64") partsRecipe = .ok partsValue ∧
      parts.Unmatched {} (.native "amd64") (.mapping [("on i386", .mapping [("a", .integer 1)])]) ∧
      FieldSpec.resolveRaw { parts with required := true } {} (.native "amd64")
        (.mapping [("on i386", .mapping [("a", .integer 1)])]) = .error (.unmatched (some "parts")) := by
  have hv : FieldSpec.resolveRaw { parts with required := true } {} (.native "amd64") partsRecipe =
      .ok partsValue := by cbv
  have hu : parts.Unmatched {} (.native "amd64") (.mapping [("on i386", .mapping [("a", .integer 1)])]) :=
    ⟨.clause (.host (.ofList ["i386"])) (.leaf (.mapping [("a", .integer 1)])) [], by cbv, by cbv⟩
  obtain ⟨hok, hiff, -, -⟩ := resolveRaw_guarantees parts {} (.native "amd64") partsRecipe
  obtain ⟨hm, ho⟩ := (hiff _).1 hv
  obtain ⟨hn, -, -, hs⟩ := hok _ ho
  obtain ⟨-, -, hunset, -⟩ := resolveRaw_guarantees parts {} (.native "amd64")
    (.mapping [("on i386", .mapping [("a", .integer 1)])])
  exact ⟨hv, hn, hs rfl, hm, ho, hu, (hunset hu).1⟩

end FieldSpec

end Recipe
