import Mathlib
import Recipe.Proofs.Clause.WellFormed
import Recipe.Proofs.Evaluation.Steps
import Recipe.Statement.Parse

namespace Recipe

open Clause (Head Kind)

namespace Selectors

variable {ss : Selectors} {s : String}

theorem isOther_of_names (h : ss.names s) : ss.isOther = false := by
  rw [names, decide_eq_true_iff] at h
  rw [isOther, beq_eq_false_iff_ne]
  intro ho
  have hm : s ∈ ss.tokens := h.2.2
  rw [ho, List.mem_singleton] at hm
  exact h.1 hm

theorem claims_eq (ss : Selectors) (s : String) : ss.claims s = (!ss.hasAny && ss.names s) := by
  rw [claims, isWildcard]
  cases hn : ss.names s with
  | false => simp
  | true => rw [isOther_of_names hn, Bool.false_or]

theorem selects_of_names {siblings : List Selectors} {k : Kind} {env : Environment}
    (hk : k.subject? env = some s) (h : ss.names s) : ss.selects siblings k env := by
  rw [selects, hk, isOther_of_names h]
  dsimp only
  split
  · rfl
  · exact h

end Selectors

namespace Clause.Head

variable {env : Environment} {h : Head} {others : List Head}

def named (env : Environment) : Head → Bool
  | .host ss => ss.names env.hostArch
  | .target ss => ss.names env.targetArch
  | .hostTarget ss ts => ss.names env.hostArch && ts.names env.targetArch
  | .platform ss => ss.names env.platform
  | .attempt => false

/-- Rivals are looked for among clauses with one selector set that has no `any`. -/
def compared (h : Head) : Bool := h.selectors?.any fun ss => !ss.hasAny

theorem selectedByName_eq (h : Head) : h.selectedByName env = (h.compared && h.named env) := by
  cases h with
  | host ss | target ss | platform ss => exact ss.claims_eq _
  | hostTarget | attempt => rfl

theorem selected_of_named {siblings : List Head} (hn : h.named env) : h.selected siblings env := by
  cases h with
  | host ss | target ss | platform ss =>
    rw [selected]
    exact Selectors.selects_of_names rfl hn
  | hostTarget ss ts =>
    obtain ⟨hs, ht⟩ := (Bool.and_eq_true _ _).to_iff.1 hn
    rw [selected, Selectors.selects_of_names (s := env.hostArch) rfl hs,
      Selectors.selects_of_names (s := env.targetArch) rfl ht, Bool.and_self]
  | attempt => rfl

theorem compared_iff (hw : h.WellFormed) (hn : h.named env) : h.compared ↔ h.kind ≠ .hostTarget := by
  cases h with
  | host ss | target ss =>
    have ha : ss.hasAny = false := decide_eq_false hw.2
    simp [compared, selectors?, kind, ha]
  | hostTarget ss ts => simp [compared, selectors?, kind]
  | platform ss =>
    have ha : ss.hasAny = false := by
      rw [Selectors.hasAny, decide_eq_false_iff_not]
      rw [named, Selectors.names, decide_eq_true_iff] at hn
      obtain ⟨t, ht⟩ := List.length_eq_one_iff.1 hw.2
      obtain ⟨-, ha, hm⟩ := hn
      change _ ∈ ss.tokens at hm
      change ¬ Selectors.any ∈ ss.tokens
      rw [ht, List.mem_singleton] at hm ⊢
      rw [← hm]
      exact Ne.symm ha
    simp [compared, selectors?, kind, ha]
  | attempt => cases hn

theorem exists_subject? (env : Environment) (hc : h.compared) : ∃ s, h.kind.subject? env = some s := by
  cases h with
  | host | target | platform => exact ⟨_, rfl⟩
  | hostTarget | attempt => cases hc

/-- A clause of the same kind that names the environment too, where both are compared. -/
def Rival (env : Environment) (h g : Head) : Prop :=
  g.kind = h.kind ∧ g.named env ∧ h.compared ∧ g.compared

instance (env : Environment) (h g : Head) : Decidable (h.Rival env g) :=
  inferInstanceAs (Decidable (_ ∧ _ ∧ _ ∧ _))

theorem rival?_eq_none (hn : h.named env) :
    h.rival? others env = none ↔ ¬ ∃ g ∈ others, Rival env h g := by
  rw [rival?, selectedByName_eq, hn, Bool.and_true]
  cases hc : h.compared with
  | false => simp [Rival, hc]
  | true => simp [Rival, hc, selectedByName_eq, and_comm]

theorem of_rival?_eq_some {g : Head} (hr : h.rival? others env = some g) :
    h.selectedByName env ∧ g ∈ others ∧ g.kind = h.kind ∧ g.selectedByName env := by
  rw [rival?] at hr
  split at hr
  · rename_i hs
    have hg := List.find?_some hr
    rw [decide_eq_true_iff] at hg
    exact ⟨hs, List.mem_of_find?_eq_some hr, hg⟩
  · cases hr

theorem rival_of_rival? {g : Head} (hr : h.rival? others env = some g) : g ∈ others ∧ Rival env h g := by
  obtain ⟨hs, hm, hk, hg⟩ := of_rival?_eq_some hr
  rw [selectedByName_eq, Bool.and_eq_true] at hs hg
  exact ⟨hm, hk, hg.2, hs.1, hg.1⟩

end Clause.Head

theorem Gathered.ne_nothing_of_add {g g' : Gathered} {asList ofClause : Bool} {v : Value}
    (h : g.add asList ofClause v = .ok g') : g' ≠ .nothing := by
  rintro rfl
  cases g with
  | list vs => cases h
  | mapping es => cases v <;> cases h
  | nothing =>
    cases v with
    | mapping es =>
      rw [add] at h
      split at h <;> cases h
    | unset | scalar | sequence => cases h

namespace Statement

variable {σ : Settings} {path : List Statement} {siblings before : List Head} {g : Gathered}
  {ss : List Statement}

theorem start_of_clauses (hc : ∀ s ∈ ss, s.isClause) (hn : ss ≠ []) : start ss = .nothing := by
  have hall : ss.all isClause = true := List.all_eq_true.2 hc
  cases ss with
  | nil => exact absurd rfl hn
  | cons s ss => rw [start, hall]; rfl

theorem evalItems_of_unset {pre : List Statement}
    (hp : ∀ s ∈ pre, eval σ path siblings s = .ok .unset) (ss : List Statement) :
    evalItems σ path siblings before g (pre ++ ss) =
      evalItems σ path siblings (before ++ heads pre) g ss := by
  induction pre generalizing before with
  | nil => rw [List.nil_append, heads, List.filterMap_nil, List.append_nil]
  | cons s pre ih =>
    have hs : evalItems σ path siblings before g (s :: (pre ++ ss)) =
        evalItems σ path siblings (before ++ s.head?.toList) g (pre ++ ss) := by
      rw [evalItems, hp s List.mem_cons_self]
      rfl
    rw [List.cons_append, hs, ih fun t ht => hp t (List.mem_cons_of_mem s ht), List.append_assoc]
    congr 2
    cases hh : s.head? <;> simp [heads, hh]

theorem evalItems_of_begun (hg : g ≠ .nothing) {v : Value}
    (h : evalItems σ path siblings before g ss = .ok v) : v ≠ .unset ∧ ∀ u, v ≠ .scalar u := by
  induction ss generalizing before g with
  | nil =>
    cases h
    cases g with
    | nothing => exact absurd rfl hg
    | list | mapping => simp [Gathered.value]
  | cons s ss ih =>
    obtain ⟨w, -, ⟨-, h⟩ | ⟨hs, -⟩ | ⟨-, -, g', hg', h⟩⟩ := evalItems_cons_eq_ok h
    · exact ih hg h
    · cases g with
      | nothing => exact absurd rfl hg
      | list | mapping => cases hs
    · exact ih (Gathered.ne_nothing_of_add hg') h

theorem evalItems_of_scalar (hl : σ.shape ≠ some .list) {s : Statement} {v : Scalar}
    (hs : eval σ path siblings s = .ok (.scalar v)) (ss : List Statement) :
    evalItems σ path siblings before .nothing (s :: ss) =
      settle σ.env s (before ++ heads ss) (.scalar v) := by
  have ha : σ.asList = false := by simp [Settings.asList, hl]
  rw [evalItems, hs, ha]
  rfl

theorem evalItems_eq_scalar {v : Scalar}
    (he : evalItems σ path siblings before .nothing ss = .ok (.scalar v)) :
    ∃ pre s post, ss = pre ++ s :: post ∧ (∀ t ∈ pre, eval σ path siblings t = .ok .unset) ∧
      eval σ path siblings s = .ok (.scalar v) := by
  induction ss generalizing before with
  | nil => cases he
  | cons s ss ih =>
    obtain ⟨w, hw, ⟨rfl, he⟩ | ⟨-, rfl⟩ | ⟨-, -, g', hg', he⟩⟩ := evalItems_cons_eq_ok he
    · obtain ⟨pre, t, post, rfl, hp, ht⟩ := ih he
      exact ⟨s :: pre, t, post, rfl, List.forall_mem_cons.2 ⟨hw, hp⟩, ht⟩
    · exact ⟨[], s, ss, rfl, by simp, hw⟩
    · exact absurd rfl ((evalItems_of_begun (Gathered.ne_nothing_of_add hg') he).2 v)

theorem eval_of_first (hl : σ.shape ≠ some .list) (hc : ∀ s ∈ ss, s.isClause)
    {pre post : List Statement} {h : Head} {b : Statement} {bs : List Branch} {v : Scalar}
    (hss : ss = pre ++ .clause h b bs :: post)
    (hp : ∀ s ∈ pre, eval σ path (heads ss) s = .ok .unset)
    (hv : eval σ path (heads ss) (.clause h b bs) = .ok (.scalar v)) :
    eval σ path siblings (.sequence ss) =
      settle σ.env (.clause h b bs) (heads pre ++ heads post) (.scalar v) := by
  have hne : ss ≠ [] := by simp [hss]
  rw [eval, start_of_clauses hc hne]
  generalize heads ss = siblings at hp hv ⊢
  rw [hss, evalItems_of_unset hp, List.nil_append, evalItems_of_scalar hl hv]

/-- The first statement of an alternation that has a value is a clause that names the environment, and the
value is a scalar that its body yields. `others` are the clauses beside it. -/
def ChosenByName (σ : Settings) (path ss : List Statement) (h : Head) (others : List Head) (v : Scalar) :
    Prop :=
  ∃ pre b bs post, ss = pre ++ .clause h b bs :: post ∧ others = heads pre ++ heads post ∧
    (∀ s ∈ pre, eval σ path (heads ss) s = .ok .unset) ∧ h.named σ.env ∧
    eval σ (path ++ [.clause h b bs]) [] b = .ok (.scalar v)

variable {h : Head} {others : List Head} {v : Scalar}

theorem settle_clause (env : Environment) (h : Head) (b : Statement) (bs : List Branch)
    (others : List Head) (v : Value) :
    settle env (.clause h b bs) others v =
      match h.rival? others env with
      | none => .ok v
      | some g => .error (.ambiguous h g ((h.kind.subject? env).getD "")) := rfl

theorem eval_of_chosenByName (hl : σ.shape ≠ some .list) (hc : ∀ s ∈ ss, s.isClause)
    (hch : ChosenByName σ path ss h others v) :
    eval σ path siblings (.sequence ss) =
      match h.rival? others σ.env with
      | none => .ok (.scalar v)
      | some g => .error (.ambiguous h g ((h.kind.subject? σ.env).getD "")) := by
  obtain ⟨pre, b, bs, post, hss, rfl, hp, hn, hb⟩ := hch
  have hk : h ≠ .attempt := by
    rintro rfl
    cases hn
  have hv : eval σ path (heads ss) (.clause h b bs) = .ok (.scalar v) := by
    rw [eval_clause hk, Head.selected_of_named hn, if_pos rfl, hb]
  rw [eval_of_first hl hc hss hp hv, settle_clause]

/-- A choice by name stands exactly where no rival is looked for and found, and is an ambiguity elsewhere.
Of the clauses a recipe can write every rival is found, unless they are compound: of those the first is
chosen, whichever others name the environment. -/
theorem choice_by_name_stands_iff (hl : σ.shape ≠ some .list) (hc : ∀ s ∈ ss, s.isClause) :
    (∀ v, eval σ path siblings (.sequence ss) = .ok (.scalar v) → ∃ pre s post,
      ss = pre ++ s :: post ∧ (∀ t ∈ pre, eval σ path (heads ss) t = .ok .unset) ∧
        eval σ path (heads ss) s = .ok (.scalar v)) ∧
    ∀ h others v, ChosenByName σ path ss h others v →
      (eval σ path siblings (.sequence ss) = .ok (.scalar v) ↔ ¬ ∃ g ∈ others, h.Rival σ.env g) ∧
      ((∃ g ∈ others, h.Rival σ.env g) → ∃ g ∈ others, h.Rival σ.env g ∧
        eval σ path siblings (.sequence ss) =
          .error (.ambiguous h g ((h.kind.subject? σ.env).getD ""))) ∧
      ((∀ g ∈ h :: others, g.WellFormed) →
        (eval σ path siblings (.sequence ss) = .ok (.scalar v) ↔
          h.kind = .hostTarget ∨ ∀ g ∈ others, g.kind = h.kind → ¬ g.named σ.env)) := by
  constructor
  · intro v he
    have hne : ss ≠ [] := by
      rintro rfl
      cases he
    rw [eval, start_of_clauses hc hne] at he
    exact evalItems_eq_scalar he
  · intro h others v hch
    have hn : h.named σ.env := by
      obtain ⟨_, _, _, _, _, _, _, hn, _⟩ := hch
      exact hn
    have hiff : eval σ path siblings (.sequence ss) = .ok (.scalar v) ↔
        ¬ ∃ g ∈ others, h.Rival σ.env g := by
      rw [← Head.rival?_eq_none hn, eval_of_chosenByName hl hc hch]
      cases h.rival? others σ.env <;> simp
    refine ⟨hiff, ?_, ?_⟩
    · intro hr
      cases hg : h.rival? others σ.env with
      | none => exact absurd hr ((Head.rival?_eq_none hn).1 hg)
      | some g =>
        obtain ⟨hm, hr⟩ := Head.rival_of_rival? hg
        refine ⟨g, hm, hr, ?_⟩
        rw [eval_of_chosenByName hl hc hch, hg]
    · intro hw
      rw [hiff]
      -- of two heads of one kind either both are compared or neither is
      have hcmp := Head.compared_iff (hw h List.mem_cons_self) hn
      constructor
      · intro hno
        by_cases hk : h.kind = .hostTarget
        · exact .inl hk
        · refine .inr fun g hm hkind hgn => hno ⟨g, hm, hkind, hgn, hcmp.2 hk, ?_⟩
          exact (Head.compared_iff (hw g (List.mem_cons_of_mem h hm)) hgn).2 (hkind ▸ hk)
      · rintro (hk | hno) ⟨g, hm, hkind, hgn, hhc, _⟩
        · exact hcmp.1 hhc hk
        · exact hno g hm hkind hgn

def buildSettings : Settings := { env := ⟨"amd64", "arm64", "p"⟩ }

def twoClauses (a b : Head) : List Statement :=
  [.clause a (.leaf (.string "a")) [], .clause b (.leaf (.string "b")) []]

theorem chosenByName_twoClauses {a b : Head} (hn : a.named buildSettings.env) :
    ChosenByName buildSettings [] (twoClauses a b) a [b] (.string "a") :=
  ⟨[], _, _, _, rfl, rfl, by simp, hn, rfl⟩

def firstCompound : Head := .hostTarget (.ofList ["amd64"]) (.ofList ["arm64"])

def secondCompound : Head := .hostTarget (.ofList ["amd64", "i386"]) (.ofList ["arm64"])

def compoundRecipe : Value :=
  .sequence [.mapping [("on amd64 to arm64", .string "a")],
    .mapping [("on amd64,i386 to arm64", .string "b")]]

theorem compound_choice_unnoticed :
    parse {} compoundRecipe = .ok (.sequence (twoClauses firstCompound secondCompound)) ∧
      ChosenByName buildSettings [] (twoClauses firstCompound secondCompound) firstCompound
        [secondCompound] (.string "a") ∧
      evaluate buildSettings (.sequence (twoClauses firstCompound secondCompound)) =
        .ok (.string "a") ∧
      ¬ ∀ g ∈ [secondCompound], g.kind = firstCompound.kind → ¬ g.named buildSettings.env :=
  ⟨by cbv, chosenByName_twoClauses (by decide), rfl, by decide⟩

def firstHost : Head := .host (.ofList ["amd64"])

def secondHost : Head := .host (.ofList ["amd64", "i386"])

theorem choice_by_name_stands_compound :
    evaluate buildSettings (.sequence (twoClauses firstCompound secondCompound)) =
        .ok (.string "a") ∧
      ∃ g ∈ [secondHost], evaluate buildSettings (.sequence (twoClauses firstHost secondHost)) =
        .error (.ambiguous firstHost g "amd64") := by
  constructor
  · have hc : ∀ s ∈ twoClauses firstCompound secondCompound, s.isClause := by decide
    refine ((choice_by_name_stands_iff (by decide) hc).2 _ _ _ (chosenByName_twoClauses ?_)).1.2 ?_
    · decide
    · decide
  · have hc : ∀ s ∈ twoClauses firstHost secondHost, s.isClause := by decide
    obtain ⟨g, hm, -, he⟩ := ((choice_by_name_stands_iff (by decide) hc).2 _ _ _
      (chosenByName_twoClauses (by decide))).2.1 (by decide)
    exact ⟨g, hm, he⟩

end Statement

end Recipe
