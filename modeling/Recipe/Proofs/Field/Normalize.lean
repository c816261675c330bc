import Recipe.Field
import Recipe.Proofs.Except

namespace Recipe.FieldSpec

open Statement (parse evaluate)

inductive Normalizes (f : FieldSpec) : Shape → Value → Value → Prop
  | unset {s : Shape} : f.required = false → s ≠ .list → Normalizes f s .unset .unset
  | empty : f.required = false → Normalizes f .list .unset (.sequence [])
  | scalar : Normalizes f .scalar (.scalar s) (.scalar s)
  | item : Normalizes f .scalar (.sequence [v]) v
  | list : Normalizes f .list (.sequence vs) (.sequence vs)
  | wrap : v.isUnset = false → v.isSequence = false → Normalizes f .list v (.sequence [v])
  | mapping : Normalizes f .mapping (.mapping es) (.mapping es)
  | merge : f.merge [] vs = .ok v → Normalizes f .mapping (.sequence vs) v

variable {f : FieldSpec} {v w : Value} {e : GrammarError}

theorem merge_eq_error {es : Entries Value} {vs : List Value} (h : f.merge es vs = .error e) :
    ∃ v, e = f.mismatch "a mapping" v := by
  induction vs generalizing es with
  | nil => cases h
  | cons v vs ih =>
    cases v with
    | mapping fs => exact ih h
    | unset | scalar | sequence =>
      cases h
      exact ⟨_, rfl⟩

theorem merge_eq_ok {es : Entries Value} {vs : List Value} (h : f.merge es vs = .ok w) : w.isMapping := by
  induction vs generalizing es with
  | nil =>
    cases h
    rfl
  | cons v vs ih =>
    cases v with
    | mapping fs => exact ih h
    | unset | scalar | sequence => cases h

theorem merge_required (b : Bool) (es : Entries Value) (vs : List Value) :
    FieldSpec.merge { f with required := b } es vs = f.merge es vs := by
  induction vs generalizing es with
  | nil => rfl
  | cons v vs ih =>
    cases v with
    | mapping fs => exact ih (es.union fs)
    | unset | scalar | sequence => rfl

theorem normalize_unset : f.normalize .unset =
    if f.required then .error (.unmatched (some f.name))
    else .ok (if f.shape = .list then .sequence [] else .unset) := rfl

theorem normalizes_of_normalize (h : f.normalize v = .ok w) : f.Normalizes f.shape v w := by
  obtain ⟨name, shape, leaf, required⟩ := f
  cases v with
  | unset =>
    cases required with
    | true => cases h
    | false =>
      cases shape with
      | list =>
        cases h
        exact .empty rfl
      | scalar | mapping =>
        cases h
        exact .unset rfl Shape.noConfusion
  | scalar s =>
    cases shape with
    | scalar =>
      cases h
      exact .scalar
    | list =>
      cases h
      exact .wrap rfl rfl
    | mapping => cases h
  | mapping es =>
    cases shape with
    | scalar => cases h
    | list =>
      cases h
      exact .wrap rfl rfl
    | mapping =>
      cases h
      exact .mapping
  | sequence vs =>
    cases shape with
    | scalar =>
      match vs, h with
      | [v], h =>
        cases h
        exact .item
    | list =>
      simp only [normalize] at h
      cases h
      exact .list
    | mapping =>
      simp only [normalize] at h
      exact .merge h

theorem normalize_of_normalizes (h : f.Normalizes f.shape v w) : f.normalize v = .ok w := by
  generalize hs : f.shape = shape at h
  cases h with
  | unset hr hl => simp [normalize_unset, hr, hs, hl]
  | empty hr => simp [normalize_unset, hr, hs]
  | wrap hu hn => cases v <;> simp_all [normalize, Value.isUnset, Value.isSequence]
  | scalar | item | list | mapping => simp [normalize, hs]
  | merge hm => simp [normalize, hs, hm]

theorem normalize_eq_ok : f.normalize v = .ok w ↔ f.Normalizes f.shape v w :=
  ⟨normalizes_of_normalize, normalize_of_normalizes⟩

theorem normalize_eq_error (h : f.normalize v = .error e) :
    (v = .unset ∧ f.required ∧ e = .unmatched (some f.name)) ∨ ∃ x w, e = f.mismatch x w := by
  rw [normalize.eq_def] at h
  split at h
  · split at h
    · cases h
      exact .inl ⟨rfl, ‹_›, rfl⟩
    · cases h
  · cases h
  · cases h
  · cases h
    exact .inr ⟨_, _, rfl⟩
  · cases h
  · cases h
  · cases h
  · exact .inr ⟨_, merge_eq_error h⟩
  · cases h
    exact .inr ⟨_, _, rfl⟩

theorem normalize_required (hv : v ≠ .unset) (b : Bool) :
    FieldSpec.normalize { f with required := b } v = f.normalize v := by
  obtain ⟨name, shape, leaf, required⟩ := f
  cases v with
  | unset => exact absurd rfl hv
  | scalar | mapping => cases shape <;> rfl
  | sequence vs =>
    cases shape with
    | list => simp only [normalize]
    | mapping =>
      simp only [normalize]
      exact merge_required (f := ⟨name, .mapping, leaf, required⟩) b [] vs
    | scalar =>
      match vs with
      | [] | [_] | _ :: _ :: _ => rfl

variable {o : Options} {env : Environment} {raw : Value}

theorem resolveRaw_eq_ok : f.resolveRaw o env raw = .ok w ↔
    ∃ t v, parse o raw = .ok t ∧ evaluate (f.settings env) t = .ok v ∧ f.normalize v = .ok w := by
  simp only [resolveRaw, resolve, Except.bind_eq_ok]
  constructor
  · rintro ⟨t, ht, v, hv, hw⟩
    exact ⟨t, v, ht, hv, hw⟩
  · rintro ⟨t, v, ht, hv, hw⟩
    exact ⟨t, ht, v, hv, hw⟩

theorem resolveRaw_eq_error : f.resolveRaw o env raw = .error e ↔
    parse o raw = .error e ∨ ∃ t, parse o raw = .ok t ∧
      (evaluate (f.settings env) t = .error e ∨
        ∃ v, evaluate (f.settings env) t = .ok v ∧ f.normalize v = .error e) := by
  simp only [resolveRaw, resolve, Except.bind_eq_error]

end Recipe.FieldSpec
