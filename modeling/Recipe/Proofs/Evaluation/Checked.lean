import Mathlib
import Recipe.Proofs.Evaluation.Yields
import Recipe.Proofs.Statement.WellFormed

namespace Recipe

open Clause (Head)

namespace Value

mutual

/-- What a sequence holds, where the sequences in it are replaced by what they hold. Any other value is its
own only element. -/
def elements : Value → List Value
  | .unset => [.unset]
  | .scalar s => [.scalar s]
  | .sequence vs => elementsList vs
  | .mapping es => [.mapping es]

def elementsList : List Value → List Value
  | [] => []
  | v :: vs => v.elements ++ elementsList vs

end

theorem elements_of_isSequence {v : Value} (h : v.isSequence = false) : v.elements = [v] := by
  cases v with
  | sequence => cases h
  | unset | scalar | mapping => rfl

theorem elementsList_append (vs ws : List Value) :
    elementsList (vs ++ ws) = elementsList vs ++ elementsList ws := by
  induction vs with
  | nil => rfl
  | cons v vs ih => rw [List.cons_append, elementsList, elementsList, ih, List.append_assoc]

theorem elementsList_contribution (ofClause : Bool) (v : Value) :
    elementsList (v.contribution ofClause) = v.elements := by
  cases v with
  | sequence vs => cases ofClause <;> simp [contribution, elementsList, elements]
  | unset | scalar | mapping => rfl

end Value

namespace LeafType

variable {L : LeafType} {v w : Value}

theorem check_eq_ok : L.check v = .ok w ↔ L.accept? v = some w := by
  rw [check]
  cases L.accept? v <;> simp

theorem check_of_check (h : L.check v = .ok w) : L.check w = .ok w := by
  rw [check_eq_ok] at h ⊢
  unfold accept? at h
  split at h <;> cases h <;> rfl

theorem isSequence_of_check (h : L.check v = .ok w) (hv : v.isSequence = false) : w.isSequence = false := by
  rw [check_eq_ok, accept?.eq_def] at h
  split at h <;> cases h <;> simp_all [Value.isSequence]

theorem check_mapping {es : Entries Value} (hL : L ≠ .singleEntryMapping)
    (h : L.check (.mapping es) = .ok w) (fs : Entries Value) : L.check (.mapping fs) = .ok (.mapping fs) := by
  cases L with
  | mapping | any => rfl
  | singleEntryMapping => exact absurd rfl hL
  | string | integer | float | bool => cases h

theorem ne_unset_of_check (h : L.check v = .ok w) : v ≠ .unset := by
  rintro rfl
  cases L <;> cases h

theorem ne_integer_of_check (hL : L = .string ∨ L = .float) (h : L.check v = .ok v) (i : Int64) :
    v ≠ .integer i := by
  rintro rfl
  obtain rfl | rfl := hL <;> cases h

/-- Nothing, or a value of which every element is accepted as it is. -/
def Accepts (L : LeafType) (v : Value) : Prop := v = .unset ∨ ∀ w ∈ v.elements, L.check w = .ok w

theorem accepts_unset : L.Accepts .unset := .inl rfl

theorem accepts_sequence {vs : List Value} :
    L.Accepts (.sequence vs) ↔ ∀ w ∈ Value.elementsList vs, L.check w = .ok w := by
  simp [Accepts, Value.elements]

theorem accepts_of_check (hv : v.isSequence = false) (h : L.check v = .ok w) : L.Accepts w := by
  right
  rw [Value.elements_of_isSequence (isSequence_of_check h hv), List.forall_mem_singleton]
  exact check_of_check h

theorem Accepts.check_mapping {es : Entries Value} (h : L.Accepts (.mapping es)) :
    L.check (.mapping es) = .ok (.mapping es) := by
  obtain h | h := h
  · cases h
  · exact h _ (List.mem_singleton.2 rfl)

theorem accepts_add (hL : L ≠ .singleEntryMapping) {g g' : Gathered} {asList ofClause : Bool}
    (hg : L.Accepts g.value) (hv : L.Accepts v) (hu : v.isUnset = false)
    (h : g.add asList ofClause v = .ok g') : L.Accepts g'.value := by
  obtain ⟨vs, hvs, rfl⟩ | ⟨es, fs, -, rfl, rfl⟩ := Gathered.add_cases h
  · rw [Gathered.value, accepts_sequence, Value.elementsList_append, List.forall_mem_append,
      Value.elementsList_contribution]
    refine ⟨?_, hv.resolve_left (by rintro rfl; cases hu)⟩
    obtain rfl | rfl := hvs
    · exact accepts_sequence.1 hg
    · simp [Value.elementsList]
  · right
    rw [Gathered.value, Value.elements, List.forall_mem_singleton]
    exact LeafType.check_mapping hL hv.check_mapping _

end LeafType

structure Settings.Checks (σ : Settings) (L : LeafType) : Prop where
  validator : σ.validator = some L.check
  transformer : σ.transformer = none

namespace Settings.Checks

variable {σ : Settings} {L : LeafType} {v w : Value} (h : σ.Checks L)

include h

theorem validate : σ.validate v = .ok w ↔ L.check v = .ok w := by
  rw [Settings.validate, h.validator]
  exact Except.mapError_eq_ok

theorem leaf (path : List Statement) (v : Value) : σ.leaf path v = σ.validate v := by
  rw [Settings.leaf, h.transformer]

end Settings.Checks

namespace Statement

variable {L : LeafType}

theorem accepts_start (ss : List Statement) : L.Accepts (start ss).value := by
  obtain h | h := start_value ss <;> rw [h]
  · exact LeafType.accepts_unset
  · exact LeafType.accepts_sequence.2 (by simp [Value.elementsList])

mutual

theorem Yields.accepts {σ : Settings} {s : Statement} {v : Value} : Yields σ s v → σ.Checks L →
    L ≠ .singleEntryMapping → s.WellFormed → L.Accepts v
  | .unset, _, _, _ => LeafType.accepts_unset
  | .leaf _ h, hσ, _, hw => by
    rw [hσ.leaf, hσ.validate] at h
    exact LeafType.accepts_of_check hw.1 h
  | .sequence h, hσ, hL, hw => h.accepts hσ hL (accepts_start _) hw.2
  -- the entries are not checked, and need not be
  | .mapping _ h, hσ, _, _ => LeafType.accepts_of_check rfl (hσ.validate.1 h)
  | .body h, hσ, hL, hw => h.accepts hσ hL hw.2.2.1
  | .branches h, hσ, hL, hw => h.accepts hσ hL hw.2.2.2

theorem YieldsBranches.accepts {σ : Settings} {bs : List Branch} {v : Value} :
    YieldsBranches σ bs v → σ.Checks L → L ≠ .singleEntryMapping → WellFormedBranches bs → L.Accepts v
  | .nil, _, _, _ => LeafType.accepts_unset
  | .body h, hσ, hL, hw => h.accepts hσ hL hw.2.1
  | .skip h, hσ, hL, hw => h.accepts hσ hL hw.2.2

theorem YieldsItems.accepts {σ : Settings} {g : Gathered} {ss : List Statement} {v : Value} :
    YieldsItems σ g ss v → σ.Checks L → L ≠ .singleEntryMapping → L.Accepts g.value →
      WellFormedList ss → L.Accepts v
  | .nil, _, _, hg, _ => hg
  | .skip h, hσ, hL, hg, hw => h.accepts hσ hL hg hw.2
  | .settle _ h, hσ, hL, _, hw => h.accepts hσ hL hw.1
  | .add hv hu hg' h, hσ, hL, hg, hw =>
    h.accepts hσ hL (LeafType.accepts_add hL hg (hv.accepts hσ hL hw.1) hu hg') hw.2

end

theorem eval_accepts {σ : Settings} (hσ : σ.Checks L) (hL : L ≠ .singleEntryMapping)
    (path : List Statement) (siblings : List Head) (s : Statement) {v : Value} (hw : s.WellFormed)
    (h : eval σ path siblings s = .ok v) : L.Accepts v :=
  (yields_of_eval s h).accepts hσ hL hw

/-- Every element of what a recipe resolves to is accepted as it is: nothing is left that would be taken in
another form, and nothing that is `unset`. Mappings with a single entry are the one exception, as a union
of them may have several. -/
theorem parse_evaluate_accepts {o : Options} {raw : Value} {t : Statement} (ht : parse o raw = .ok t)
    (hL : L ≠ .singleEntryMapping) (env : Environment) (shape : Option Shape) {v : Value}
    (hv : evaluate ⟨env, some L.check, none, shape⟩ t = .ok v) (hu : v ≠ .unset) :
    ∀ w ∈ v.elements, L.check w = .ok w ∧ w ≠ .unset ∧
      (L = .string ∨ L = .float → ∀ i, w ≠ .integer i) := by
  obtain ⟨g, hr⟩ := parse_eq_ok_iff.1 ht
  have ha : L.Accepts v := eval_accepts ⟨rfl, rfl⟩ hL [] [] t hr.wellFormed hv
  intro w hw
  have hc := ha.resolve_left hu w hw
  exact ⟨hc, LeafType.ne_unset_of_check hc, fun h => LeafType.ne_integer_of_check h hc⟩

def weightsRecipe : Value :=
  .sequence [.integer 1, .mapping [("on other", .sequence [.integer 2])],
    .mapping [("try", .sequence [.integer 3, .string "heavy"]), ("else", .sequence [.integer 4])]]

def weightsTree : Statement :=
  .sequence [.leaf (.integer 1), .clause (.host (.ofList ["other"])) (.sequence [.leaf (.integer 2)]) [],
    .clause .attempt (.sequence [.leaf (.integer 3), .leaf (.string "heavy")])
      [.body (.sequence [.leaf (.integer 4)])]]

def weights : Value := .sequence [.float (.ofInt 1), .float (.ofInt 2), .float (.ofInt 4)]

theorem parse_evaluate_accepts_weights :
    parse {} weightsRecipe = .ok weightsTree ∧
    evaluate ⟨.native "amd64", some LeafType.float.check, none, some .list⟩ weightsTree = .ok weights ∧
    weights ≠ .unset ∧ ∀ w ∈ weights.elements, LeafType.float.check w = .ok w ∧ ∀ i, w ≠ .integer i := by
  have hp : parse {} weightsRecipe = .ok weightsTree := by cbv
  have hv : evaluate ⟨.native "amd64", some LeafType.float.check, none, some .list⟩ weightsTree =
      .ok weights := by cbv
  have hu : weights ≠ .unset := by decide
  refine ⟨hp, hv, hu, ?_⟩
  intro w hw
  obtain ⟨hc, -, hi⟩ := parse_evaluate_accepts hp (by decide) _ _ hv hu w hw
  exact ⟨hc, hi (.inr rfl)⟩

example : evaluate ⟨.native "amd64", some LeafType.singleEntryMapping.check, none, none⟩
    (.sequence [.clause (.host (.ofList ["amd64"])) (.leaf (.mapping [("a", .string "1")])) [],
      .clause (.target (.ofList ["amd64"])) (.leaf (.mapping [("b", .string "2")])) []]) =
    .ok (.mapping [("a", .string "1"), ("b", .string "2")]) := by cbv

end Statement

end Recipe
