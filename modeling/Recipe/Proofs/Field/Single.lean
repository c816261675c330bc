import Mathlib
import Recipe.Proofs.Evaluation.Checked
import Recipe.Proofs.Field.Normalize

namespace Recipe

namespace Value

def isContainer (v : Value) : Bool := v.isSequence || v.isMapping

theorem isContainer_eq_false {v : Value} : v.isContainer = false ↔ v.isScalar ∨ v = .unset := by
  cases v <;> simp [isContainer, isSequence, isMapping, isScalar]

end Value

theorem LeafType.eq_of_check_mapping {L : LeafType} {es : Entries Value} {w : Value}
    (h : L.check (.mapping es) = .ok w) : L = .mapping ∨ L = .singleEntryMapping ∨ L = .any := by
  cases L with
  | mapping => exact .inl rfl
  | singleEntryMapping => exact .inr (.inl rfl)
  | any => exact .inr (.inr rfl)
  | string | integer | float | bool => cases h

namespace FieldSpec

open Statement (parse evaluate)

variable {f : FieldSpec} {v w : Value}

theorem normalize_scalar_eq_ok (hs : f.shape = .scalar) (h : f.normalize v = .ok w) :
    (w = v ∧ w.isContainer = false) ∨ v = .sequence [w] := by
  rw [normalize_eq_ok, hs] at h
  cases h with
  | unset | scalar => exact .inl ⟨rfl, rfl⟩
  | item => exact .inr rfl

theorem normalize_scalar_isContainer (hs : f.shape = .scalar) (h : f.normalize v = .ok w) :
    w.isContainer ↔ ∃ u, v = .sequence [u] ∧ u.isContainer := by
  obtain ⟨rfl, hw⟩ | rfl := normalize_scalar_eq_ok hs h
  · simp only [hw, Bool.false_eq_true, false_iff, not_exists, not_and]
    rintro u rfl
    cases hw
  · simp

theorem normalize_scalar_eq_self (hs : f.shape = .scalar) :
    f.normalize w = .ok w ↔ w.isScalar ∨ (w = .unset ∧ f.required = false) := by
  rw [normalize_eq_ok, hs]
  constructor
  · intro hn
    cases hn with
    | unset hr => exact .inr ⟨rfl, hr⟩
    | scalar => exact .inl rfl
  · rintro (hw | ⟨rfl, hr⟩)
    · cases w with
      | scalar => exact .scalar
      | unset | sequence | mapping => cases hw
    · exact .unset hr Shape.noConfusion

/-- A scalar field yields a single value, and normalizing that changes nothing, exactly where it is not made
from a list with a list or a mapping as its only item. No mapping is delivered where the leaves are
single values. -/
theorem scalar_single_iff (hs : f.shape = .scalar) :
    (∀ v w, f.normalize v = .ok w →
      ((w.isScalar ∨ w = .unset) ↔ ¬ ∃ u, v = .sequence [u] ∧ u.isContainer) ∧
      (f.normalize w = .ok w ↔ w.isScalar ∨ (w = .unset ∧ f.required = false))) ∧
    (∀ o env raw w, f.resolveRaw o env raw = .ok w →
      ((w.isScalar ∨ w = .unset) ↔ ¬ ∃ t u, parse o raw = .ok t ∧
        evaluate (f.settings env) t = .ok (.sequence [u]) ∧ u.isContainer) ∧
      (w.isMapping → f.leaf = .mapping ∨ f.leaf = .singleEntryMapping ∨ f.leaf = .any)) := by
  have hsingle {v w : Value} (h : f.normalize v = .ok w) :
      (w.isScalar ∨ w = .unset) ↔ ¬ ∃ u, v = .sequence [u] ∧ u.isContainer := by
    rw [← Value.isContainer_eq_false, ← normalize_scalar_isContainer hs h, Bool.not_eq_true]
  refine ⟨fun v w h => ⟨hsingle h, normalize_scalar_eq_self hs⟩, ?_⟩
  intro o env raw w h
  obtain ⟨t, v, ht, hv, hw⟩ := resolveRaw_eq_ok.1 h
  constructor
  · rw [hsingle hw]
    constructor
    · rintro hn ⟨t', u, ht', hu, hc⟩
      cases ht.symm.trans ht'
      cases hv.symm.trans hu
      exact hn ⟨u, rfl, hc⟩
    · rintro hn ⟨u, rfl, hc⟩
      exact hn ⟨t, u, ht, hv, hc⟩
  · intro hm
    obtain ⟨es, rfl⟩ : ∃ es, w = .mapping es := by
      cases w with
      | mapping es => exact ⟨es, rfl⟩
      | unset | scalar | sequence => cases hm
    obtain ⟨-, hc⟩ | rfl := normalize_scalar_eq_ok hs hw
    · cases hc
    · by_cases hL : f.leaf = .singleEntryMapping
      · exact .inr (.inl hL)
      · obtain ⟨g, hr⟩ := Statement.parse_eq_ok_iff.1 ht
        have ha := Statement.eval_accepts (L := f.leaf) ⟨rfl, rfl⟩ hL [] [] t hr.wellFormed hv
        have hc := LeafType.accepts_sequence.1 ha _ (List.mem_cons_self ..)
        exact LeafType.eq_of_check_mapping hc

def version : FieldSpec := { name := "version", shape := .scalar, leaf := .string }

def versions : Value := .sequence [.string "1.0", .string "1.1"]

theorem only_item_unchecked :
    version.resolveRaw {} (.native "amd64") (.sequence [versions]) = .ok versions ∧
      version.normalize (.sequence [versions]) = .ok versions ∧
      ¬ (versions.isScalar ∨ versions = .unset) ∧
      version.normalize versions = .error (version.mismatch "a single value" versions) :=
  ⟨by cbv, rfl, by decide, rfl⟩

def chosenVersion : Value :=
  .sequence [.mapping [("on amd64", .sequence [.string "1.1"]), ("else", .string "1.0")]]

theorem scalar_single_iff_version :
    version.shape = .scalar ∧
      version.resolveRaw {} (.native "amd64") chosenVersion = .ok (.string "1.1") ∧
      (¬ ∃ t u, parse {} chosenVersion = .ok t ∧
        evaluate (version.settings (.native "amd64")) t = .ok (.sequence [u]) ∧ u.isContainer) ∧
      version.normalize (.sequence [.string "1.1"]) = .ok (.string "1.1") ∧
      version.normalize (.string "1.1") = .ok (.string "1.1") := by
  obtain ⟨hn, hr⟩ := scalar_single_iff (f := version) rfl
  have hv : version.resolveRaw {} (.native "amd64") chosenVersion = .ok (.string "1.1") := by cbv
  have hw : version.normalize (.sequence [.string "1.1"]) = .ok (.string "1.1") := rfl
  exact ⟨rfl, hv, (hr _ _ _ _ hv).1.1 (.inl rfl), hw, (hn _ _ hw).2.2 (.inl rfl)⟩

end FieldSpec

end Recipe
