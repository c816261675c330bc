import Mathlib
import Recipe.Proofs.Evaluation.Agreement

namespace Recipe

open Clause (Head Kind)

/-- An architecture that none of the sets names. What is called as a wildcard is never named. -/
def Unnamed (sets : List Selectors) (s : String) : Prop :=
  ∀ ss ∈ sets, s ∈ ss → s = Selectors.other ∨ s = Selectors.any

instance (sets : List Selectors) (s : String) : Decidable (Unnamed sets s) :=
  inferInstanceAs (Decidable (∀ ss ∈ sets, s ∈ ss → s = Selectors.other ∨ s = Selectors.any))

theorem Unnamed.names_eq_false {sets : Head → List Selectors} {hs : List Head} {s : String}
    (hu : Unnamed (hs.flatMap sets) s) : ∀ h ∈ hs, ∀ ss ∈ sets h, ss.names s = false := by
  intro h hm ss hss
  rw [Selectors.names, decide_eq_false_iff_not]
  rintro ⟨ho, ha, hs⟩
  rcases hu ss (List.mem_flatMap.2 ⟨h, hm, hss⟩) hs with h | h
  · exact ho h
  · exact ha h

namespace Clause.Head

variable {e f : Environment} {s t : String}

def hostSets : Head → List Selectors
  | .host ss | .hostTarget ss _ => [ss]
  | .target _ | .platform _ | .attempt => []

def targetSets : Head → List Selectors
  | .target ts | .hostTarget _ ts => [ts]
  | .host _ | .platform _ | .attempt => []

theorem agrees_of_archPair (h : Head) (hf : h.kind.family = .archPair) (hh : e.hostArch = f.hostArch)
    (ht : e.targetArch = f.targetArch) : h.Agrees e f := by
  cases h <;> simp_all [Agrees, kind, Kind.family]

theorem agrees_of_platform (h : Head) (hf : h.kind.family = .platform) (hp : e.platform = f.platform) :
    h.Agrees e f := by
  cases h <;> simp_all [Agrees, kind, Kind.family]

theorem subjectText_eq_of_archPair (h : Head) (hf : h.kind.family = .archPair)
    (hh : e.hostArch = f.hostArch) (ht : e.targetArch = f.targetArch) :
    subjectText e h = subjectText f h := by
  cases h <;> simp_all [subjectText, kind, Kind.family, Kind.subject?]

theorem subjectText_eq_of_platform (h : Head) (hf : h.kind.family = .platform)
    (hp : e.platform = f.platform) : subjectText e h = subjectText f h := by
  cases h <;> simp_all [subjectText, kind, Kind.family, Kind.subject?]

theorem agrees_of_hostSets (h : Head) (hs : ∀ ss ∈ h.hostSets, ss.names s = false)
    (ht : ∀ ss ∈ h.hostSets, ss.names t = false) :
    h.Agrees { e with hostArch := s } { e with hostArch := t } := by
  cases h <;> simp_all [Agrees, hostSets]

theorem agrees_of_targetSets (h : Head) (hs : ∀ ss ∈ h.targetSets, ss.names s = false)
    (ht : ∀ ss ∈ h.targetSets, ss.names t = false) :
    h.Agrees { e with targetArch := s } { e with targetArch := t } := by
  cases h <;> simp_all [Agrees, targetSets]

theorem subjectText_eq_of_hostSets (h : Head) (hs : ∀ ss ∈ h.hostSets, ss.names s = false)
    (hn : h.selectedByName { e with hostArch := s }) :
    subjectText { e with hostArch := s } h = subjectText { e with hostArch := t } h := by
  cases h with
  | host ss =>
    have : ss.names s = false := hs ss (by simp [hostSets])
    simp [selectedByName, selectors?, kind, Selectors.selectsByName, Kind.subject?, Selectors.claims,
      this] at hn
  | target | hostTarget | platform | attempt => rfl

theorem subjectText_eq_of_targetSets (h : Head) (hs : ∀ ss ∈ h.targetSets, ss.names s = false)
    (hn : h.selectedByName { e with targetArch := s }) :
    subjectText { e with targetArch := s } h = subjectText { e with targetArch := t } h := by
  cases h with
  | target ss =>
    have : ss.names s = false := hs ss (by simp [targetSets])
    simp [selectedByName, selectors?, kind, Selectors.selectsByName, Kind.subject?, Selectors.claims,
      this] at hn
  | host | hostTarget | platform | attempt => rfl

end Clause.Head

namespace Statement

/-- Whatever the text of an ambiguity says, evaluation has read no more of a subject than which sets name
it. What parsing lets through of one family reads nothing of the other, and an architecture that no
clause names is as good as any other that none names. -/
theorem evaluate_reads_names (t : Statement) (check : Option Validator) (shape : Option Shape) :
    (∀ e f, (∀ h ∈ t.allHeads, h.Agrees e f) →
      evaluate ⟨e, check, none, shape⟩ t = evaluate ⟨f, check, none, shape⟩ t ∨
      ∃ h g s s', evaluate ⟨e, check, none, shape⟩ t = .error (.ambiguous h g s) ∧
        evaluate ⟨f, check, none, shape⟩ t = .error (.ambiguous h g s')) ∧
    (∀ o raw, o.variant = .only .archPair → parse o raw = .ok t → ∀ (e : Environment) p,
      evaluate ⟨e, check, none, shape⟩ t =
        evaluate ⟨{ e with platform := p }, check, none, shape⟩ t) ∧
    (∀ o raw, o.variant = .only .platform → parse o raw = .ok t → ∀ (e : Environment) a b,
      evaluate ⟨e, check, none, shape⟩ t =
        evaluate ⟨{ e with hostArch := a, targetArch := b }, check, none, shape⟩ t) ∧
    (∀ (e : Environment) a b, Unnamed (t.allHeads.flatMap Head.hostSets) a →
      Unnamed (t.allHeads.flatMap Head.hostSets) b →
      evaluate ⟨{ e with hostArch := a }, check, none, shape⟩ t =
        evaluate ⟨{ e with hostArch := b }, check, none, shape⟩ t) ∧
    (∀ (e : Environment) a b, Unnamed (t.allHeads.flatMap Head.targetSets) a →
      Unnamed (t.allHeads.flatMap Head.targetSets) b →
      evaluate ⟨{ e with targetArch := a }, check, none, shape⟩ t =
        evaluate ⟨{ e with targetArch := b }, check, none, shape⟩ t) := by
  refine ⟨?_, ?_, ?_, ?_, ?_⟩
  · intro e f ha
    exact (evaluate_agree ha).eq_or_ambiguous
  · intro o raw hv hp e p
    have hf := family_of_parse hv hp
    apply evaluate_eq
    · exact fun h hm => h.agrees_of_archPair (hf h hm) rfl rfl
    · exact fun h hm _ => h.subjectText_eq_of_archPair (hf h hm) rfl rfl
  · intro o raw hv hp e a b
    have hf := family_of_parse hv hp
    apply evaluate_eq
    · exact fun h hm => h.agrees_of_platform (hf h hm) rfl
    · exact fun h hm _ => h.subjectText_eq_of_platform (hf h hm) rfl
  · intro e a b ha hb
    have ha := ha.names_eq_false
    apply evaluate_eq
    · exact fun h hm => h.agrees_of_hostSets (ha h hm) (hb.names_eq_false h hm)
    · exact fun h hm => h.subjectText_eq_of_hostSets (ha h hm)
  · intro e a b ha hb
    have ha := ha.names_eq_false
    apply evaluate_eq
    · exact fun h hm => h.agrees_of_targetSets (ha h hm) (hb.names_eq_false h hm)
    · exact fun h hm => h.subjectText_eq_of_targetSets (ha h hm)

def rivalRecipe : Value :=
  .sequence [.mapping [("on amd64,i386", .string "a")], .mapping [("on amd64,armhf,i386", .string "b")]]

def rivalTree : Statement :=
  .sequence [.clause (.host (.ofList ["amd64", "i386"])) (.leaf (.string "a")) [],
    .clause (.host (.ofList ["amd64", "armhf", "i386"])) (.leaf (.string "b")) []]

def platformTree : Statement :=
  .clause (.platform (.ofList ["any"])) (.leaf (.string "a")) []

theorem evaluate_reads_names_rivals :
    (∃ h g s s', evaluate ⟨⟨"amd64", "arm64", "p"⟩, none, none, none⟩ rivalTree =
        .error (.ambiguous h g s) ∧
      evaluate ⟨⟨"i386", "arm64", "p"⟩, none, none, none⟩ rivalTree =
        .error (.ambiguous h g s') ∧ s ≠ s') ∧
    evaluate ⟨⟨"amd64", "arm64", "p"⟩, none, none, none⟩ rivalTree =
      evaluate ⟨⟨"amd64", "arm64", "q"⟩, none, none, none⟩ rivalTree ∧
    evaluate ⟨⟨"amd64", "arm64", "p"⟩, none, none, none⟩ platformTree =
      evaluate ⟨⟨"i386", "armhf", "p"⟩, none, none, none⟩ platformTree ∧
    evaluate ⟨⟨"riscv64", "arm64", "p"⟩, none, none, none⟩ rivalTree =
      evaluate ⟨⟨"other", "arm64", "p"⟩, none, none, none⟩ rivalTree ∧
    evaluate ⟨⟨"amd64", "any", "p"⟩, none, none, none⟩ rivalTree =
      evaluate ⟨⟨"amd64", "i386", "p"⟩, none, none, none⟩ rivalTree := by
  obtain ⟨hnames, harch, -, hhost, htarget⟩ := evaluate_reads_names rivalTree none none
  refine ⟨?_, ?_, ?_, ?_, ?_⟩
  · have ha : ∀ h ∈ rivalTree.allHeads, h.Agrees ⟨"amd64", "arm64", "p"⟩ ⟨"i386", "arm64", "p"⟩ := by
      intro h hm
      rcases List.mem_cons.1 hm with rfl | hm
      · rfl
      · cases List.mem_singleton.1 hm
        rfl
    have hne : evaluate ⟨⟨"amd64", "arm64", "p"⟩, none, none, none⟩ rivalTree ≠
        evaluate ⟨⟨"i386", "arm64", "p"⟩, none, none, none⟩ rivalTree := by
      cbv
      simp
    rcases hnames _ _ ha with he | ⟨h, g, s, s', hs, hs'⟩
    · exact absurd he hne
    · refine ⟨h, g, s, s', hs, hs', ?_⟩
      rintro rfl
      exact hne (hs.trans hs'.symm)
  · exact harch {} rivalRecipe rfl (by cbv) ⟨"amd64", "arm64", "p"⟩ "q"
  · exact (evaluate_reads_names platformTree none none).2.2.1
      { variant := .only .platform } (.mapping [("for any", .string "a")]) rfl (by cbv)
      ⟨"amd64", "arm64", "p"⟩ "i386" "armhf"
  · exact hhost ⟨"amd64", "arm64", "p"⟩ "riscv64" "other" (by decide)
      (fun _ _ _ => .inl rfl)
  · exact htarget ⟨"amd64", "arm64", "p"⟩ "any" "i386" (fun _ _ _ => .inr rfl) (by decide)

end Statement

end Recipe
