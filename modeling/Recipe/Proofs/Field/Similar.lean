import Recipe.Proofs.Evaluation.Similar
import Recipe.Proofs.Statement.ParseSimilar

namespace Recipe

variable {L : Leniency} {v w : Value} {vs ws : List Value}

namespace LeafType

theorem accept?_similar (t : LeafType) (h : v.Similar w) :
    Option.Rel Value.Similar (t.accept? v) (t.accept? w) := by
  cases h with
  | unset => cases t <;> exact .none
  | scalar =>
    cases ht : t.accept? (.scalar _) with
    | none => exact .none
    | some v => exact .some (.refl v)
  | sequence h =>
    cases t with
    | any => exact .some (.sequence h)
    | string | integer | float | bool | mapping | singleEntryMapping => exact .none
  | @mapping es gs fs h hp =>
    cases t with
    | any | mapping => exact .some (.mapping h hp)
    | string | integer | float | bool => exact .none
    | singleEntryMapping =>
      cases h with
      | nil =>
        obtain rfl := List.nil_perm.1 hp
        exact .none
      | cons hv hes =>
        cases hes with
        | nil =>
          obtain rfl := List.singleton_perm.1 hp
          exact .some (.mapping (.cons hv .nil) (.refl _))
        | cons hv' hes =>
          match fs, hp.length_eq with
          | f :: f' :: fs, _ => exact .none

theorem check_similar (t : LeafType) (h : v.Similar w) :
    L.Agree Value.Similar ((t.check v).mapError fun r => .mismatch r.expected v)
      ((t.check w).mapError fun r => .mismatch r.expected w) := by
  have ht := t.accept?_similar h
  rw [check, check]
  generalize t.accept? v = x, t.accept? w = y at ht
  cases ht with
  | none => exact .error (L.of_similar _ _ (.mismatch h))
  | some hxy => exact .ok hxy

end LeafType

namespace FieldSpec

variable {es fs : List (String × Value)}

theorem settings_respects (f : FieldSpec) (env : Environment) : (f.settings env).Respects L where
  transformer := rfl
  validate := f.leaf.check_similar

theorem mismatch_similar (f : FieldSpec) (expected : String) (h : v.Similar w) :
    L.errors (f.mismatch expected v) (f.mismatch expected w) := L.of_similar _ _ (.mismatch h)

theorem merge_similar (f : FieldSpec) (hes : Value.SimilarUnordered es fs) (h : Value.SimilarList vs ws) :
    L.Agree Value.Similar (f.merge es vs) (f.merge fs ws) := by
  induction vs generalizing es fs ws with
  | nil =>
    cases h
    exact .ok (Value.similar_mapping_iff.2 hes)
  | cons v vs ih =>
    cases h with
    | cons hv hvs =>
      cases hv with
      | mapping h hp =>
        rw [merge, merge]
        exact ih (hes.union ⟨_, h, hp⟩) hvs
      | unset => exact .error (f.mismatch_similar _ .unset)
      | scalar => exact .error (f.mismatch_similar _ .scalar)
      | sequence h => exact .error (f.mismatch_similar _ (.sequence h))

theorem normalize_similar (f : FieldSpec) (h : v.Similar w) :
    L.Agree Value.Similar (f.normalize v) (f.normalize w) := by
  obtain ⟨name, shape, leaf, required⟩ := f
  cases h with
  | unset =>
    cases hn : normalize ⟨name, shape, leaf, required⟩ .unset with
    | error e => exact .error (L.of_similar _ _ .refl)
    | ok v => exact .ok (.refl v)
  | scalar =>
    cases shape with
    | scalar => exact .ok .scalar
    | list => exact .ok (.sequence (.cons .scalar .nil))
    | mapping => exact .error (mismatch_similar _ _ .scalar)
  | mapping h hp =>
    cases shape with
    | scalar => exact .error (mismatch_similar _ _ (.mapping h hp))
    | list => exact .ok (.sequence (.cons (.mapping h hp) .nil))
    | mapping => exact .ok (.mapping h hp)
  | sequence h =>
    cases shape with
    | scalar =>
      cases h with
      | nil => exact .error (mismatch_similar _ _ (.sequence .nil))
      | cons hv hvs =>
        cases hvs with
        | nil => exact .ok hv
        | cons hv' hvs =>
          have hs := Value.Similar.sequence (.cons hv (.cons hv' hvs))
          exact .error (mismatch_similar _ _ hs)
    | list =>
      simp only [normalize]
      exact .ok (.sequence h)
    | mapping =>
      simp only [normalize]
      exact merge_similar _ ⟨[], .nil, .nil⟩ h

theorem resolve_similar (f : FieldSpec) (env : Environment) {s t : Statement}
    (h : Statement.Similar L s t) : L.Agree Value.Similar (f.resolve env s) (f.resolve env t) :=
  (Statement.eval_similar (f.settings env) (f.settings_respects env) [] h [] []).bind
    fun _ _ => f.normalize_similar

theorem resolveRaw_similar (f : FieldSpec) (o : Options) (env : Environment) (h : v.Reordered L w) :
    L.Agree Value.Similar (f.resolveRaw o env v) (f.resolveRaw o env w) :=
  (Statement.parse_alike h).mono.bind fun _ _ => f.resolve_similar env

end FieldSpec

end Recipe
