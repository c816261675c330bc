import Mathlib
import Recipe.Proofs.Evaluation.Siblings
import Recipe.Proofs.Statement.Context
import Recipe.Proofs.Statement.WellFormed

namespace Recipe

open Clause (Head Kind)

namespace Selectors

variable {ss : Selectors} {siblings : List Selectors} {k : Kind} {env : Environment} {s : String}

/-- The subject is one of the names in the set. Neither wildcard is a name, and a set with `any`, or with
`other` alone, has none. -/
def HasName (s : String) (ss : Selectors) : Prop :=
  (ss.tokens ≠ [other] ∧ any ∉ ss) ∧ s ∈ ss ∧ s ≠ other ∧ s ≠ any

instance (s : String) (ss : Selectors) : Decidable (ss.HasName s) :=
  inferInstanceAs (Decidable ((_ ∧ _) ∧ _ ∧ _ ∧ _))

theorem isWildcard_eq_false : ss.isWildcard = false ↔ ss.tokens ≠ [other] ∧ any ∉ ss := by
  simp [isWildcard, isOther, hasAny]

theorem selects_of_hasAny (ha : ss.hasAny) : ss.selects siblings .platform env :=
  if_pos ⟨rfl, ha⟩

theorem claims_iff : ss.claims s ↔ ss.HasName s := by
  rw [claims, Bool.and_eq_true, Bool.not_eq_true', isWildcard_eq_false, names, decide_eq_true_iff, HasName]
  tauto

variable (hk : k.subject? env = some s)
include hk

theorem selects_iff_hasName (hw : ss.isWildcard = false) : ss.selects siblings k env ↔ ss.HasName s := by
  rw [← claims_iff, claims, hw, selects, hk]
  rw [isWildcard, Bool.or_eq_false_iff] at hw
  simp [hw]

theorem selects_iff_of_isOther (ho : ss.isOther) :
    ss.selects siblings k env ↔ ∀ ts ∈ siblings, ¬ ts.HasName s := by
  have ha : ss.hasAny = false := by
    rw [isOther, beq_iff_eq] at ho
    rw [hasAny, decide_eq_false_iff_not]
    change ¬ any ∈ ss.tokens
    rw [ho]
    decide
  simp [selects, hk, ha, ho, ← claims_iff]

end Selectors

namespace Clause.Head

variable {h : Head} {env : Environment} {s : String}

def isNamed (h : Head) : Bool := h.selectors?.any (!·.isWildcard)

def hasAny (h : Head) : Bool := h.selectors?.any Selectors.hasAny

def HasName (s : String) (h : Head) : Prop := ∃ ss ∈ h.selectors?, ss.HasName s

instance (s : String) (h : Head) : Decidable (h.HasName s) :=
  inferInstanceAs (Decidable (∃ ss ∈ h.selectors?, ss.HasName s))

theorem selected_eq_selects {ss : Selectors} (hss : h.selectors? = some ss) (hs : List Head)
    (env : Environment) : h.selected hs env = ss.selects (hs.filterMap (selectorsOf h.kind)) h.kind env := by
  cases h with
  | host ss | target ss | platform ss =>
    cases hss
    rfl
  | hostTarget | attempt => cases hss

theorem selected_of_hasAny (hk : h.kind = .platform) (ha : h.hasAny) (hs : List Head) :
    h.selected hs env := by
  obtain ⟨ss, hss, ha⟩ := (Option.any_eq_true ..).1 ha
  rw [selected_eq_selects hss, hk]
  exact Selectors.selects_of_hasAny ha

theorem exists_selectors? (hk : h.kind.subject? env = some s) : ∃ ss, h.selectors? = some ss := by
  cases h with
  | host ss | target ss | platform ss => exact ⟨ss, rfl⟩
  | hostTarget | attempt => cases hk

theorem kind_of_hasAny (hw : h.WellFormed) (ha : h.hasAny) : h.kind = .platform := by
  cases h with
  | host ss | target ss => exact absurd (of_decide_eq_true ha) hw.2
  | platform => rfl
  | hostTarget | attempt => cases ha

theorem isNamed_or_of_wellFormed (hw : h.WellFormed) (hk : h.kind.subject? env = some s) :
    h.isNamed ∨ h.isOther ∨ h.kind = .platform ∧ h.hasAny := by
  obtain ⟨ss, hss⟩ := exists_selectors? hk
  by_cases ho : h.isOther
  · exact .inr (.inl ho)
  · by_cases ha : h.hasAny
    · exact .inr (.inr ⟨kind_of_hasAny hw ha, ha⟩)
    · left
      rw [isOther, hss, Option.any_some, Bool.not_eq_true] at ho
      rw [hasAny, hss, Option.any_some, Bool.not_eq_true] at ha
      rw [isNamed, hss, Option.any_some, Selectors.isWildcard, ho, ha]
      rfl

end Clause.Head

namespace Statement

variable {o : Options} {raw : Value} {s t : Statement} {ss : List Statement}

theorem wellFormed_of_fill (c : Context) (h : (c.fill s).WellFormed) : s.WellFormed := by
  induction c with
  | hole => exact h
  | body _ c bs ih => exact ih h.2.2.1
  | branch _ b before c after ih => exact ih (wellFormedBranches_append.1 h.2.2.2).2.2.1
  | item before c after ih => exact ih (wellFormedList_iff.1 h.2 _ (by simp))
  | entry before k c after ih => exact ih (wellFormedEntries_iff.1 h.2.2 (k, c.fill s) (by simp))

theorem PartOf.wellFormed (hs : s.PartOf t) (h : parse o raw = .ok t) : s.WellFormed := by
  obtain ⟨c, rfl⟩ := hs
  exact wellFormed_of_fill c (parse_wellFormed h)

theorem wellFormed_of_mem_heads {h : Head} (hw : WellFormed (.sequence ss)) (hh : h ∈ heads ss) :
    h.WellFormed := by
  obtain ⟨s, hs, hsh⟩ := List.mem_filterMap.1 hh
  have hws := wellFormedList_iff.1 hw.2 s hs
  cases s with
  | clause h' b bs =>
    cases hsh
    exact hws.1
  | leaf | sequence | mapping => cases hsh

variable {k : Kind} {env : Environment} {subject : String}

def naming (k : Kind) (subject : String) (ss : List Statement) : List Head :=
  (heads ss).filter fun h => h.kind = k ∧ h.HasName subject

theorem naming_eq_nil_iff : naming k subject ss = [] ↔
    ∀ ts ∈ (heads ss).filterMap (Head.selectorsOf k), ¬ ts.HasName subject := by
  rw [naming, List.filter_eq_nil_iff]
  constructor
  · intro hn ts hts hname
    obtain ⟨h, hh, hts⟩ := List.mem_filterMap.1 hts
    rw [Head.selectorsOf] at hts
    split at hts
    · exact hn h hh (decide_eq_true ⟨‹_›, ts, hts, hname⟩)
    · cases hts
  · intro hn h hh hname
    obtain ⟨hkind, ts, hts, hname⟩ := of_decide_eq_true hname
    exact hn ts (List.mem_filterMap.2 ⟨h, hh, (if_pos hkind).trans hts⟩) hname

section Selection

variable {h g : Head} (hk : k.subject? env = some subject) (hh : h.kind = k)

include hk hh

theorem selected_iff_mem_naming (hm : h ∈ heads ss) (hn : h.isNamed) :
    h.selected (heads ss) env ↔ h ∈ naming k subject ss := by
  obtain ⟨ts, hts, hw⟩ := (Option.any_eq_true ..).1 hn
  rw [Bool.not_eq_true'] at hw
  subst hh
  rw [Head.selected_eq_selects hts, Selectors.selects_iff_hasName hk hw, naming, List.mem_filter,
    decide_eq_true_iff]
  constructor
  · intro hname
    exact ⟨hm, rfl, ts, hts, hname⟩
  · rintro ⟨-, -, ts', hts', hname⟩
    cases hts.symm.trans hts'
    exact hname

theorem selected_iff_naming_eq_nil (ho : h.isOther) :
    h.selected (heads ss) env ↔ naming k subject ss = [] := by
  obtain ⟨ts, hts, ho⟩ := (Option.any_eq_true ..).1 ho
  subst hh
  rw [Head.selected_eq_selects hts, Selectors.selects_iff_of_isOther hk ho, naming_eq_nil_iff]

theorem not_selected_both (hg : g.kind = k) (gm : g ∈ heads ss) (ho : h.isOther) (gn : g.isNamed) :
    ¬ (h.selected (heads ss) env ∧ g.selected (heads ss) env) := by
  rw [selected_iff_naming_eq_nil hk hh ho, selected_iff_mem_naming hk hg gm gn]
  rintro ⟨hnil, hmem⟩
  rw [hnil] at hmem
  cases hmem

end Selection

/-- Among the clauses of one kind in an alternation, those are selected that name the subject, and where none
does the one for `other` is. A platform clause with `any` always is and does not count. Neither the order of
the alternation nor its clauses of other kinds matter. In a tree that is read there are no more cases. -/
theorem other_is_default (hk : k.subject? env = some subject) (ss : List Statement) :
    (∀ h ∈ heads ss, h.kind = k →
      (h.isNamed → (h.selected (heads ss) env ↔ h ∈ naming k subject ss)) ∧
      (h.isOther → (h.selected (heads ss) env ↔ naming k subject ss = [])) ∧
      (k = .platform → h.hasAny → h.selected (heads ss) env)) ∧
    (∀ h ∈ heads ss, ∀ g ∈ heads ss, h.kind = k → g.kind = k → h.isOther → g.isNamed →
      ¬ (h.selected (heads ss) env ∧ g.selected (heads ss) env)) ∧
    (∀ ts, ss.Perm ts → ∀ h, Head.selected h (heads ss) env = h.selected (heads ts) env) ∧
    (∀ ts, (heads ss).filter (·.kind = k) = (heads ts).filter (·.kind = k) →
      ∀ h, Head.kind h = k → h.selected (heads ss) env = h.selected (heads ts) env) ∧
    ∀ o raw t, parse o raw = .ok t → PartOf (.sequence ss) t → ∀ h ∈ heads ss, h.kind = k →
      h.isNamed ∨ h.isOther ∨ k = .platform ∧ h.hasAny := by
  refine ⟨?_, ?_, ?_, ?_, ?_⟩
  · intro h hm hh
    exact ⟨selected_iff_mem_naming hk hh hm, selected_iff_naming_eq_nil hk hh,
      fun hp ha => Head.selected_of_hasAny (hh.trans hp) ha _⟩
  · intro h _ g gm hh hg
    exact not_selected_both hk hh hg gm
  · intro ts hp h
    exact h.selected_perm (hp.filterMap _)
  · intro ts he h hh
    subst hh
    exact h.selected_congr_kind (.of_eq he)
  · intro o raw t hp hs h hm hh
    subst hh
    exact Head.isNamed_or_of_wellFormed (wellFormed_of_mem_heads (hs.wellFormed hp) hm) hk

def linkerRecipe : Value :=
  .sequence [.string "make", .mapping [("on other", .string "gcc")],
    .mapping [("on amd64,i386", .string "clang")], .mapping [("to other", .string "lld")]]

def linkers : List Statement :=
  [.leaf (.string "make"), .clause (.host (.ofList ["other"])) (.leaf (.string "gcc")) [],
    .clause (.host (.ofList ["amd64", "i386"])) (.leaf (.string "clang")) [],
    .clause (.target (.ofList ["other"])) (.leaf (.string "lld")) []]

theorem other_is_default_linkers :
    Kind.subject? (.native "amd64") .host = some "amd64" ∧
    parse {} linkerRecipe = .ok (.sequence linkers) ∧
    Head.selected (.host (.ofList ["amd64", "i386"])) (heads linkers) (.native "amd64") ∧
    ¬ Head.selected (.host (.ofList ["other"])) (heads linkers.reverse) (.native "amd64") ∧
    Head.selected (.target (.ofList ["other"])) (heads linkers) (.native "amd64") ∧
    ∀ h ∈ heads linkers, h.kind = .host →
      h.isNamed ∨ h.isOther ∨ Kind.host = .platform ∧ h.hasAny := by
  have hp : parse {} linkerRecipe = .ok (.sequence linkers) := by cbv
  have hn : naming .host "amd64" linkers = [.host (.ofList ["amd64", "i386"])] := by decide
  have tn : naming .target "amd64" linkers = [] := by decide
  have hk : Kind.subject? (.native "amd64") .host = some "amd64" := rfl
  have tk : Kind.subject? (.native "amd64") .target = some "amd64" := rfl
  obtain ⟨host, -, order, -, parsed⟩ := other_is_default hk linkers
  obtain ⟨target, -⟩ := other_is_default tk linkers
  refine ⟨hk, hp, ?_, ?_, ?_, parsed {} linkerRecipe _ hp (.refl _)⟩
  · apply ((host _ (by decide) rfl).1 (by decide)).2
    rw [hn]
    exact List.mem_singleton_self _
  · rw [← order _ (List.reverse_perm linkers).symm, (host _ (by decide) rfl).2.1 (by decide), hn]
    simp
  · exact ((target _ (by decide) rfl).2.1 (by decide)).2 tn

end Statement

end Recipe
