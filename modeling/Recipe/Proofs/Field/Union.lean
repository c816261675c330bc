import Recipe.Proofs.Entries
import Recipe.Proofs.Evaluation.Ambiguity
import Recipe.Proofs.Field.Normalize

namespace Recipe

open Clause (Head)

namespace Statement

variable {σ : Settings} {path : List Statement} {siblings before : List Head} {ss : List Statement}

def mapping? (σ : Settings) (path : List Statement) (siblings : List Head) (s : Statement) :
    Option (Entries Value) :=
  match eval σ path siblings s with
  | .ok v => v.mapping?
  | .error _ => none

def mappings (σ : Settings) (path ss : List Statement) : List (Entries Value) :=
  ss.filterMap (mapping? σ path (heads ss))

def MapsOrNothing (σ : Settings) (path : List Statement) (siblings : List Head) (s : Statement) : Prop :=
  eval σ path siblings s = .ok .unset ∨ ∃ m, eval σ path siblings s = .ok (.mapping m)

theorem evalItems_union (hss : ∀ s ∈ ss, MapsOrNothing σ path siblings s) (es : Entries Value) :
    evalItems σ path siblings before (.mapping es) ss =
      .ok (.mapping ((ss.filterMap (mapping? σ path siblings)).foldl Entries.union es)) := by
  induction ss generalizing before es with
  | nil => rfl
  | cons s ss ih =>
    rw [List.forall_mem_cons] at hss
    rw [evalItems, List.filterMap_cons, mapping?]
    obtain hs | ⟨m, hs⟩ := hss.1
    · rw [hs]
      exact ih hss.2 es
    · rw [hs]
      exact ih hss.2 (es.union m)

theorem evalItems_unions (hl : σ.shape ≠ some .list) (hss : ∀ s ∈ ss, MapsOrNothing σ path siblings s)
    (hne : ss.filterMap (mapping? σ path siblings) ≠ []) :
    evalItems σ path siblings before .nothing ss =
      .ok (.mapping ((ss.filterMap (mapping? σ path siblings)).foldl Entries.union [])) := by
  induction ss generalizing before with
  | nil => exact absurd rfl hne
  | cons s ss ih =>
    have ha : σ.asList = false := by simp [Settings.asList, hl]
    rw [List.forall_mem_cons] at hss
    rw [List.filterMap_cons, mapping?] at hne ⊢
    rw [evalItems]
    obtain hs | ⟨m, hs⟩ := hss.1
    · rw [hs] at hne ⊢
      exact ih hss.2 hne
    · -- the first mapping is taken as it is, and not united with an empty one
      rw [hs, ha]
      simp only [Value.mapping?, List.foldl_cons, Entries.nil_union]
      exact evalItems_union hss.2 m

end Statement

namespace FieldSpec

theorem merge_mappings (f : FieldSpec) (es : Entries Value) (ms : List (Entries Value)) :
    f.merge es (ms.map .mapping) = .ok (.mapping (ms.foldl Entries.union es)) := by
  induction ms generalizing es with
  | nil => rfl
  | cons m ms ih => exact ih (es.union m)

end FieldSpec

namespace Statement

variable {σ : Settings} {path : List Statement} {siblings : List Head} {ss : List Statement}

/-- An alternation of clauses that yield mappings, each of them with any key but once, is their union: a key
stands where it comes first, with the value that it has there. Where a field is to be a mapping, a list of
them makes the same one. -/
theorem eval_union (hl : σ.shape ≠ some .list) (hc : ∀ s ∈ ss, s.isClause)
    (hss : ∀ s ∈ ss, MapsOrNothing σ path (heads ss) s) (hne : mappings σ path ss ≠ [])
    (hd : ∀ m ∈ mappings σ path ss, m.keys.Nodup) :
    ∃ es : Entries Value, eval σ path siblings (.sequence ss) = .ok (.mapping es) ∧
      es.keys = ((mappings σ path ss).flatMap Entries.keys).eraseDups ∧ es.keys.Nodup ∧
      (∀ k, es.get? k = (mappings σ path ss).findSome? (·.get? k)) ∧
      ∀ f : FieldSpec, f.shape = .mapping →
        f.normalize (.sequence ((mappings σ path ss).map .mapping)) = .ok (.mapping es) := by
  have hnil : ss ≠ [] := by
    rintro rfl
    exact hne rfl
  have hk : Entries.keys ((mappings σ path ss).foldl Entries.union []) =
      ((mappings σ path ss).flatMap Entries.keys).eraseDups := Entries.keys_foldl_union .nil hd
  refine ⟨(mappings σ path ss).foldl Entries.union [], ?_, hk, ?_, ?_, ?_⟩
  · rw [eval, start_of_clauses hc hnil]
    exact evalItems_unions hl hss hne
  · rw [hk]
    exact nodup_eraseDups _
  · exact Entries.get?_foldl_union [] _
  · intro f hf
    exact FieldSpec.normalize_of_normalizes (hf ▸ .merge (f.merge_mappings [] _))

def plugs : List Statement :=
  [.clause (.host (.ofList ["amd64"]))
      (.leaf (.mapping [("plugin", .string "make"), ("source", .string ".")])) [],
    .clause (.host (.ofList ["i386"])) (.leaf (.mapping [("plugin", .string "nil")])) [],
    .clause (.target (.ofList ["other"]))
      (.leaf (.mapping [("build", .mapping [("jobs", .string "1")]), ("source", .string "src")])) [],
    .clause (.platform (.ofList ["any"]))
      (.leaf (.mapping [("after", .string "libs"), ("build", .string "all"), ("plugin", .string "dump")])) []]

def plugMappings : List (Entries Value) :=
  [[("plugin", .string "make"), ("source", .string ".")],
    [("build", .mapping [("jobs", .string "1")]), ("source", .string "src")],
    [("after", .string "libs"), ("build", .string "all"), ("plugin", .string "dump")]]

def mappingSettings : Settings := ⟨.native "amd64", some LeafType.mapping.check, none, some .mapping⟩

theorem eval_union_plugs :
    (∀ s ∈ plugs, s.isClause) ∧
    (∀ s ∈ plugs, MapsOrNothing mappingSettings [] (heads plugs) s) ∧
    mappings mappingSettings [] plugs = plugMappings ∧
    ∃ es : Entries Value, evaluate mappingSettings (.sequence plugs) = .ok (.mapping es) ∧
      es.keys = ["plugin", "source", "build", "after"] ∧
      es.get? "build" = some (.mapping [("jobs", .string "1")]) ∧
      FieldSpec.normalize ⟨"part", .mapping, .mapping, true⟩ (.sequence (plugMappings.map .mapping)) =
        .ok (.mapping es) := by
  have hc : ∀ s ∈ plugs, s.isClause := by decide
  have hss : ∀ s ∈ plugs, MapsOrNothing mappingSettings [] (heads plugs) s := by
    simp only [plugs, List.forall_mem_cons]
    exact ⟨.inr ⟨_, by cbv⟩, .inl (by cbv), .inr ⟨_, by cbv⟩, .inr ⟨_, by cbv⟩, by simp⟩
  have hms : mappings mappingSettings [] plugs = plugMappings := by cbv
  have hne : mappings mappingSettings [] plugs ≠ [] := by
    rw [hms]
    simp [plugMappings]
  have hd : ∀ m ∈ mappings mappingSettings [] plugs, m.keys.Nodup := by
    rw [hms]
    decide
  obtain ⟨es, he, hk, -, hg, hf⟩ := @eval_union _ _ [] _ (by decide) hc hss hne hd
  rw [hms] at hk hg hf
  exact ⟨hc, hss, hms, es, he, hk.trans (by decide), (hg _).trans (by rfl), hf _ rfl⟩

end Statement

end Recipe
