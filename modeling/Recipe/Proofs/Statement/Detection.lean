import Recipe.Proofs.Statement.Depth
import Recipe.Proofs.Statement.Plain
import Recipe.Proofs.Statement.Variant

namespace Recipe

open Clause (Head Kind)

theorem Family.exists_iff {p : Family → Prop} : (∃ f, p f) ↔ p .archPair ∨ p .platform := by
  constructor
  · rintro ⟨f, h⟩
    cases f with
    | archPair => exact .inl h
    | platform => exact .inr h
  · rintro (h | h)
    · exact ⟨.archPair, h⟩
    · exact ⟨.platform, h⟩

theorem Clause.Kind.family_eq_platform {k : Kind} : k.family = .platform ↔ k = .platform := by
  cases k <;> simp [family]

namespace Statement

variable {o : Options} {raw : Value} {t : Statement} {f : Family}

theorem parse_variant_iff {x : Variant} :
    parse { o with variant := x } raw = .ok t ↔ ∃ g, Reads o 0 x.guard raw t g := by
  rw [parse_eq_ok_iff]
  apply exists_congr
  intro g
  exact ⟨fun h => h.within rfl h.nesting_le, fun h => h.within rfl h.nesting_le⟩

theorem parse_detect_iff_exists : parse { o with variant := .detect } raw = .ok t ↔
    ∃ f, parse { o with variant := .only f } raw = .ok t := by
  rw [parse_variant_iff, reads_iff_exists_only]
  constructor
  · rintro ⟨f, -, h⟩
    exact ⟨f, parse_variant_iff.2 ⟨_, h⟩⟩
  · rintro ⟨f, h⟩
    obtain ⟨f', -, h⟩ := reads_iff_exists_only.1 (parse_variant_iff.1 h)
    exact ⟨f', trivial, h⟩

theorem parse_of_hasClause (h : parse o raw = .ok t) (hc : t.hasClause = false) (x : Variant) :
    parse { o with variant := x } raw = .ok t := by
  obtain ⟨g, hr⟩ := parse_eq_ok_iff.1 h
  have hp : raw.plain := hr.plain (hr.hasClause_eq ▸ hc)
  have hd : raw.nesting ≤ o.maxDepth := nesting_le_of_parse h
  rw [parse_of_plain hp hd] at h
  have hx : parse { o with variant := x } raw = .ok (ofPlain raw) := parse_of_plain hp hd
  rw [hx, h]

theorem hasClause_of_parse_both (ha : parse { o with variant := .only .archPair } raw = .ok t)
    (hp : parse { o with variant := .only .platform } raw = .ok t) : t.hasClause = false := by
  rw [← allHeads_eq_nil, List.eq_nil_iff_forall_not_mem]
  intro h hm
  have hf := family_of_parse rfl ha h hm
  rw [family_of_parse rfl hp h hm] at hf
  cases hf

/-- Detecting the family accepts what one of the two families accepts, as the same tree. Both accept it if
and only if there is no clause in it, and it never has clauses for a platform beside others. -/
theorem parse_detect (o : Options) (raw : Value) (t : Statement) :
    (parse { o with variant := .detect } raw = .ok t ↔
      parse { o with variant := .only .archPair } raw = .ok t ∨
        parse { o with variant := .only .platform } raw = .ok t) ∧
    (parse { o with variant := .detect } raw = .ok t →
      (((∃ s, parse { o with variant := .only .archPair } raw = .ok s) ∧
        ∃ s, parse { o with variant := .only .platform } raw = .ok s) ↔ t.hasClause = false) ∧
      ((∀ h ∈ t.allHeads, h.kind = .platform) ∨ ∀ h ∈ t.allHeads, h.kind ≠ .platform)) := by
  refine ⟨parse_detect_iff_exists.trans Family.exists_iff, fun ht => ⟨⟨?_, ?_⟩, ?_⟩⟩
  · have heq {f : Family} {s : Statement} (hs : parse { o with variant := .only f } raw = .ok s) : s = t := by
      have hd := parse_detect_iff_exists.2 ⟨f, hs⟩
      rw [ht] at hd
      exact (Except.ok.inj hd).symm
    rintro ⟨⟨s, hs⟩, s', hs'⟩
    obtain rfl := heq hs
    obtain rfl := heq hs'
    exact hasClause_of_parse_both hs hs'
  · intro hc
    have hp (f : Family) := parse_of_hasClause ht hc (.only f)
    exact ⟨⟨t, hp .archPair⟩, t, hp .platform⟩
  · obtain ⟨f, hf⟩ := parse_detect_iff_exists.1 ht
    have hk := family_of_parse rfl hf
    cases f with
    | archPair =>
      right
      intro h hm hp
      have ha := hk h hm
      rw [Clause.Kind.family_eq_platform.2 hp] at ha
      cases ha
    | platform =>
      left
      intro h hm
      exact Clause.Kind.family_eq_platform.1 (hk h hm)

def seriesRecipe : Value :=
  .sequence [.mapping [("for jammy", .string "a")],
    .mapping [("else", .sequence [.mapping [("for noble", .string "b"), ("else", .unset)]])]]

def seriesTree : Statement :=
  .sequence [.clause (.platform (.ofList ["jammy"])) (.leaf (.string "a"))
    [.body (.sequence [.clause (.platform (.ofList ["noble"])) (.leaf (.string "b")) [.fail]])]]

theorem parse_detect_series :
    parse { variant := .detect } seriesRecipe = .ok seriesTree ∧
      parse { variant := .only .platform } seriesRecipe = .ok seriesTree ∧
      (∀ s, parse { variant := .only .archPair } seriesRecipe ≠ .ok s) ∧
      ∀ h ∈ seriesTree.allHeads, h.kind = .platform := by
  have hp : parse { variant := .only .platform } seriesRecipe = .ok seriesTree := by cbv
  obtain ⟨hiff, hd⟩ := parse_detect {} seriesRecipe seriesTree
  have ht : parse { variant := .detect } seriesRecipe = .ok seriesTree := hiff.2 (.inr hp)
  obtain ⟨hboth, hk⟩ := hd ht
  refine ⟨ht, hp, ?_, ?_⟩
  · intro s hs
    have hc := hboth.1 ⟨⟨s, hs⟩, seriesTree, hp⟩
    cases hc
  · apply hk.resolve_right
    intro h
    exact h (.platform (.ofList ["jammy"])) List.mem_cons_self rfl

end Statement

end Recipe
