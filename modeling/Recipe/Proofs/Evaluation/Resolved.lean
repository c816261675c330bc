import Mathlib
import Recipe.Proofs.Evaluation.Leaves
import Recipe.Proofs.Evaluation.Plain
import Recipe.Proofs.Evaluation.Yields
import Recipe.Proofs.Statement.Depth
import Recipe.Proofs.Statement.Nesting
import Recipe.Proofs.Statement.WellFormed

namespace Recipe

open Clause (Head isReserved)

namespace Value

/-- No key in the value is reserved, and no sequence has a null item. -/
structure Inert (v : Value) : Prop where
  reserves : v.reserves = false
  hasNullItem : v.hasNullItem = false

theorem inert_unset : unset.Inert := ⟨rfl, rfl⟩

theorem inert_sequence_iff {vs : List Value} :
    (sequence vs).Inert ↔ ∀ v ∈ vs, v.isUnset = false ∧ v.Inert := by
  constructor
  · rintro ⟨hr, hn⟩ v hv
    obtain ⟨hu, hn⟩ := hasNullItemList_eq_false_iff.1 hn v hv
    exact ⟨hu, reservesList_eq_false_iff.1 hr v hv, hn⟩
  · intro h
    refine ⟨reservesList_eq_false_iff.2 ?_, hasNullItemList_eq_false_iff.2 ?_⟩
    · exact fun v hv => (h v hv).2.reserves
    · exact fun v hv => ⟨(h v hv).1, (h v hv).2.hasNullItem⟩

theorem inert_mapping_iff {es : List (String × Value)} :
    (mapping es).Inert ↔ ∀ e ∈ es, isReserved e.1 = false ∧ e.2.Inert := by
  have hk : hasReserved es = false ↔ ∀ e ∈ es, isReserved e.1 = false := by simp [hasReserved]
  constructor
  · rintro ⟨hr, hn⟩ e he
    rw [Value.reserves, Bool.or_eq_false_iff, hk, reservesEntries_eq_false_iff] at hr
    exact ⟨hr.1 e he, hr.2 e he, hasNullItemEntries_eq_false_iff.1 hn e he⟩
  · intro h
    refine ⟨?_, hasNullItemEntries_eq_false_iff.2 fun e he => (h e he).2.hasNullItem⟩
    rw [Value.reserves, Bool.or_eq_false_iff, hk, reservesEntries_eq_false_iff]
    exact ⟨fun e he => (h e he).1, fun e he => (h e he).2.reserves⟩

end Value

theorem Entries.mem_or_mem_of_mem_union {es fs : Entries Value} {e : String × Value}
    (h : e ∈ es.union fs) : e ∈ es ∨ e ∈ fs :=
  List.mem_append.1 ((union_sublist es fs).subset h)

structure Settings.KeepsInert (σ : Settings) : Prop where
  transform : ∀ path v, v.Inert → (σ.transform path v).Inert
  validate : ∀ v w, v.Inert → σ.validate v = .ok w → w.Inert

namespace Settings.KeepsInert

variable {σ : Settings} {path : List Statement} {v w : Value} (hσ : σ.KeepsInert)

include hσ

theorem inside : σ.inside.KeepsInert where
  transform := hσ.transform
  validate v w hv h := by
    cases h
    exact hv

theorem leaf (hv : v.Inert) (h : σ.leaf path v = .ok w) : w.Inert :=
  hσ.validate _ w (hσ.transform path v hv) h

end Settings.KeepsInert

theorem Settings.Verbatim.keepsInert {σ : Settings} (hσ : σ.Verbatim) : σ.KeepsInert where
  transform path v hv := by
    rw [Settings.transform, hσ.transformer]
    exact hv
  validate v w hv h := by
    rw [hσ.validate] at h
    cases h
    exact hv

namespace Gathered

variable {g g' : Gathered} {asList ofClause : Bool} {v : Value}

theorem forall_add {P Q : Value → Prop} {R : String × Value → Prop}
    (hs : ∀ vs, P (.sequence vs) ↔ ∀ w ∈ vs, Q w) (hm : ∀ es, P (.mapping es) ↔ ∀ e ∈ es, R e)
    (hg : P g.value) (hv : P v) (hq : Q v) (h : g.add asList ofClause v = .ok g') : P g'.value := by
  obtain ⟨vs, hvs, rfl⟩ | ⟨es, fs, hes, rfl, rfl⟩ := add_cases h
  · refine (hs _).2 (List.forall_mem_append.2 ⟨?_, ?_⟩)
    · obtain rfl | rfl := hvs
      · exact (hs vs).1 hg
      · simp
    · intro w hc
      obtain rfl | ⟨ws, rfl, hw⟩ := Value.mem_contribution hc
      · exact hq
      · exact (hs ws).1 hv w hw
  · refine (hm _).2 fun e he => ?_
    obtain he | he := Entries.mem_or_mem_of_mem_union he
    · obtain rfl | rfl := hes
      · exact (hm es).1 hg e he
      · cases he
    · exact (hm fs).1 hv e he

theorem inert_add (hg : g.value.Inert) (hv : v.Inert) (hu : v.isUnset = false)
    (h : g.add asList ofClause v = .ok g') : g'.value.Inert :=
  forall_add (fun _ => Value.inert_sequence_iff) (fun _ => Value.inert_mapping_iff) hg hv ⟨hu, hv⟩ h

theorem nesting_add_le {n : Nat} (hg : g.value.nesting ≤ n) (hv : v.nesting < n)
    (h : g.add asList ofClause v = .ok g') : g'.value.nesting ≤ n :=
  forall_add (P := fun w => w.nesting ≤ n) (fun _ => Value.nestingList_le_iff)
    (fun _ => Value.nestingEntries_le_iff) hg hv.le hv h

end Gathered

namespace Statement

theorem nesting_start_le (ss : List Statement) (n : Nat) : (start ss).value.nesting ≤ n := by
  obtain h | h := start_value ss <;> rw [h] <;> exact Nat.zero_le n

theorem inert_start (ss : List Statement) : (start ss).value.Inert := by
  obtain h | h := start_value ss <;> rw [h] <;> exact ⟨rfl, rfl⟩

mutual

theorem Yields.nesting_le {σ : Settings} {s : Statement} {v : Value} :
    Yields σ s v → σ.Verbatim → v.nesting ≤ s.nesting
  | .unset, _ => Nat.le_refl _
  | .leaf _ h, hσ => by
    rw [hσ.leaf] at h
    cases h
    exact Nat.le_refl _
  | .sequence h, hσ => h.nesting_le hσ (nesting_start_le ..) (Nat.le_refl _)
  | .mapping h hv, hσ => by
    rw [hσ.validate] at hv
    cases hv
    exact h.nesting_le hσ.inside
  | .body h, hσ => (h.nesting_le hσ).trans (Nat.le_max_left ..)
  | .branches h, hσ => (h.nesting_le hσ).trans (Nat.le_max_right ..)

theorem YieldsBranches.nesting_le {σ : Settings} {bs : List Branch} {v : Value} :
    YieldsBranches σ bs v → σ.Verbatim → v.nesting ≤ nestingBranches bs
  | .nil, _ => Nat.le_refl _
  | .body h, hσ => (h.nesting_le hσ).trans (Nat.le_max_left ..)
  | .skip h, hσ => (h.nesting_le hσ).trans (Nat.le_max_right ..)

theorem YieldsItems.nesting_le {σ : Settings} {g : Gathered} {ss : List Statement} {v : Value} {n : Nat} :
    YieldsItems σ g ss v → σ.Verbatim → g.value.nesting ≤ n → nestingList ss ≤ n → v.nesting ≤ n
  | .nil, _, hg, _ => hg
  | .skip h, hσ, hg, hn => by
    rw [nestingList, Nat.max_le] at hn
    exact h.nesting_le hσ hg hn.2
  | .settle _ h, hσ, _, hn => by
    rw [nestingList, Nat.max_le] at hn
    have h := h.nesting_le hσ
    omega
  | .add hw _ hg' h, hσ, hg, hn => by
    rw [nestingList, Nat.max_le] at hn
    have hw := hw.nesting_le hσ
    exact h.nesting_le hσ (Gathered.nesting_add_le hg (by omega) hg') hn.2

theorem YieldsEntries.nesting_le {σ : Settings} {es : List (String × Statement)} {fs : Entries Value} :
    YieldsEntries σ es fs → σ.Verbatim → Value.nestingEntries fs ≤ nestingEntries es
  | .nil, _ => Nat.le_refl _
  | .skip h, hσ => (h.nesting_le hσ).trans (Nat.le_max_right ..)
  | .cons hv _ h, hσ => by
    have hv := hv.nesting_le hσ
    have h := h.nesting_le hσ
    rw [nestingEntries, Value.nestingEntries]
    omega

end

mutual

theorem Yields.inert {σ : Settings} {s : Statement} {v : Value} :
    Yields σ s v → σ.KeepsInert → s.WellFormed → v.Inert
  | .unset, _, _ => Value.inert_unset
  | .leaf _ h, hσ, hw => hσ.leaf ⟨hw.2.1, hw.2.2⟩ h
  | .sequence h, hσ, hw => h.inert hσ (inert_start _) hw.2
  | .mapping h hv, hσ, hw =>
    hσ.validate _ _ (Value.inert_mapping_iff.2 (h.inert hσ.inside hw.1 hw.2.2)) hv
  | .body h, hσ, hw => h.inert hσ hw.2.2.1
  | .branches h, hσ, hw => h.inert hσ hw.2.2.2

theorem YieldsBranches.inert {σ : Settings} {bs : List Branch} {v : Value} :
    YieldsBranches σ bs v → σ.KeepsInert → WellFormedBranches bs → v.Inert
  | .nil, _, _ => Value.inert_unset
  | .body h, hσ, hw => h.inert hσ hw.2.1
  | .skip h, hσ, hw => h.inert hσ hw.2.2

theorem YieldsItems.inert {σ : Settings} {g : Gathered} {ss : List Statement} {v : Value} :
    YieldsItems σ g ss v → σ.KeepsInert → g.value.Inert → WellFormedList ss → v.Inert
  | .nil, _, hg, _ => hg
  | .skip h, hσ, hg, hw => h.inert hσ hg hw.2
  | .settle _ h, hσ, _, hw => h.inert hσ hw.1
  | .add hv hu hg' h, hσ, hg, hw =>
    h.inert hσ (Gathered.inert_add hg (hv.inert hσ hw.1) hu hg') hw.2

theorem YieldsEntries.inert {σ : Settings} {es : List (String × Statement)} {fs : Entries Value} :
    YieldsEntries σ es fs → σ.KeepsInert → (∀ e ∈ es, isReserved e.1 = false) → WellFormedEntries es →
      ∀ e ∈ fs, isReserved e.1 = false ∧ e.2.Inert
  | .nil, _, _, _ => by simp
  | .skip h, hσ, hk, hw => h.inert hσ (List.forall_mem_cons.1 hk).2 hw.2
  | .cons hv _ h, hσ, hk, hw => by
    obtain ⟨hk, hks⟩ := List.forall_mem_cons.1 hk
    exact List.forall_mem_cons.2 ⟨⟨hk, hv.inert hσ hw.1⟩, h.inert hσ hks hw.2⟩

end

variable {o : Options} {raw v : Value} {t : Statement}

/-- What a recipe resolves to is no deeper than the recipe, has no reserved key and no null item. Without an
item `else fail` it is read again, as a tree without clauses that resolves to it everywhere. -/
theorem evaluate_resolved (ht : parse o raw = .ok t) (env : Environment) (shape : Option Shape)
    (hv : evaluate ⟨env, none, none, shape⟩ t = .ok v) :
    v.nesting ≤ raw.nesting ∧ v.reserves = false ∧ v.hasNullItem = false ∧
      (v.hasFailItem = false → ∃ t', parse o v = .ok t' ∧ t'.hasClause = false ∧
        ∀ env' shape', evaluate ⟨env', none, none, shape'⟩ t' = .ok v) := by
  obtain ⟨g, hr⟩ := parse_eq_ok_iff.1 ht
  have hy : Yields ⟨env, none, none, shape⟩ t v := yields_of_eval t hv
  have hd : v.nesting ≤ raw.nesting := (hy.nesting_le ⟨rfl, rfl⟩).trans (nesting_tree_le_of_parse ht)
  have hi : v.Inert := hy.inert (Settings.Verbatim.keepsInert ⟨rfl, rfl⟩) hr.wellFormed
  refine ⟨hd, hi.reserves, hi.hasNullItem, fun hf => ⟨ofPlain v, ?_, hasClause_ofPlain v, ?_⟩⟩
  · have hp : v.plain := v.plain_iff.2 ⟨hi.reserves, hi.hasNullItem, hf⟩
    exact parse_of_plain hp (hd.trans (nesting_le_of_parse ht))
  · intro env' shape'
    exact eval_ofPlain ⟨rfl, rfl⟩ [] [] v hi.hasNullItem

def toolchainRecipe : Value :=
  .sequence [.mapping [("on amd64", .mapping [("cc", .string "gcc"), ("opt", .unset)])],
    .mapping [("try", .mapping [("cc", .string "clang"),
      ("flags", .sequence [.string "-g", .mapping [("to i386", .string "-m32"),
        ("else", .sequence [.string "-O2", .sequence []])]])]), ("else", .unset)]]

def toolchainTree : Statement :=
  .sequence [
    .clause (.host (.ofList ["amd64"])) (.leaf (.mapping [("cc", .string "gcc"), ("opt", .unset)])) [],
    .clause .attempt (.mapping [("cc", .leaf (.string "clang")),
      ("flags", .sequence [.leaf (.string "-g"), .clause (.target (.ofList ["i386"])) (.leaf (.string "-m32"))
        [.body (.sequence [.leaf (.string "-O2"), .sequence []])]])]) [.fail]]

def toolchain : Value :=
  .mapping [("cc", .string "gcc"), ("opt", .unset),
    ("flags", .sequence [.string "-g", .string "-O2", .sequence []])]

theorem evaluate_resolved_toolchain :
    parse { maxDepth := 6 } toolchainRecipe = .ok toolchainTree ∧
      evaluate ⟨.native "amd64", none, none, none⟩ toolchainTree = .ok toolchain ∧
      toolchain.hasFailItem = false ∧ toolchain.nesting ≤ toolchainRecipe.nesting ∧
      ∃ t, parse { maxDepth := 6 } toolchain = .ok t ∧ t.hasClause = false ∧
        evaluate ⟨.native "i386", none, none, some .list⟩ t = .ok toolchain := by
  have hp : parse { maxDepth := 6 } toolchainRecipe = .ok toolchainTree := by cbv
  have hv : evaluate ⟨.native "amd64", none, none, none⟩ toolchainTree = .ok toolchain := by cbv
  have hf : toolchain.hasFailItem = false := by decide
  obtain ⟨hd, -, -, h⟩ := evaluate_resolved hp _ _ hv
  obtain ⟨t, ht, hc, he⟩ := h hf
  exact ⟨hp, hv, hf, hd, t, ht, hc, he _ _⟩

example : evaluate ⟨.native "amd64", none, none, some .list⟩
    (.sequence [.clause (.host (.ofList ["amd64"])) (.leaf (.string "else fail")) []]) =
      .ok (.sequence [.string "else fail"]) ∧
    parse {} (.sequence [.string "else fail"]) = .error (.malformed .danglingElse) :=
  ⟨by cbv, by cbv⟩

end Statement

end Recipe
