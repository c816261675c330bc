import Recipe.Proofs.Evaluation.Steps
import Recipe.Proofs.Statement.Family

/-! Evaluation in two environments that no clause of a tree can tell apart, as they are named by the same
selector sets. The outcome is the same, and only the text of an ambiguity shows which of them it was. -/

namespace Recipe

open Clause (Head Kind)

namespace Clause.Head

def Agrees (e f : Environment) : Head → Prop
  | .host ss => ss.names e.hostArch = ss.names f.hostArch
  | .target ss => ss.names e.targetArch = ss.names f.targetArch
  | .hostTarget ss ts =>
    ss.names e.hostArch = ss.names f.hostArch ∧ ts.names e.targetArch = ts.names f.targetArch
  | .platform ss => ss.names e.platform = ss.names f.platform
  | .attempt => True

end Clause.Head

namespace Selectors

variable {e f : Environment} {k : Kind} {ss : Selectors} {siblings : List Selectors}

def Agrees (k : Kind) (e f : Environment) (ss : Selectors) : Prop :=
  (k.subject? e).map ss.names = (k.subject? f).map ss.names

theorem claims_congr {s t : String} (h : ss.names s = ss.names t) : ss.claims s = ss.claims t := by
  rw [claims, claims, h]

theorem any_claims_congr {s t : String} (hs : ∀ ts ∈ siblings, ts.names s = ts.names t) :
    siblings.any (claims s) = siblings.any (claims t) := by
  rw [Bool.eq_iff_iff, List.any_eq_true, List.any_eq_true]
  apply exists_congr
  intro ts
  apply and_congr_right
  intro hm
  rw [claims_congr (hs ts hm)]

theorem selects_congr (h : ss.Agrees k e f) (hs : ∀ ts ∈ siblings, ts.Agrees k e f) :
    ss.selects siblings k e = ss.selects siblings k f := by
  cases k with
  | hostTarget | attempt => rfl
  | host | target | platform =>
    simp only [Agrees, Kind.subject?, Option.map_some, Option.some.injEq] at h hs
    simp only [selects, Kind.subject?]
    rw [h, any_claims_congr hs]

theorem selectsByName_congr (h : ss.Agrees k e f) : ss.selectsByName k e = ss.selectsByName k f := by
  cases k with
  | hostTarget | attempt => rfl
  | host | target | platform =>
    simp only [Agrees, Kind.subject?, Option.map_some, Option.some.injEq] at h
    simp only [selectsByName, Kind.subject?]
    exact claims_congr h

end Selectors

namespace Clause.Head

variable {e f : Environment} {h : Head} {hs : List Head}

theorem Agrees.selectors {ss : Selectors} (ha : h.Agrees e f) (hs : h.selectors? = some ss) :
    ss.Agrees h.kind e f := by
  cases h <;> cases hs <;> exact congrArg some ha

theorem agrees_of_mem_selectorsOf {k : Kind} (hh : ∀ h ∈ hs, h.Agrees e f) :
    ∀ ss ∈ hs.filterMap (selectorsOf k), ss.Agrees k e f := by
  intro ss hm
  obtain ⟨h, hm, hk⟩ := List.mem_filterMap.1 hm
  rw [selectorsOf] at hk
  split at hk
  · rename_i hkind
    exact hkind ▸ (hh h hm).selectors hk
  · cases hk

theorem selected_congr (ha : h.Agrees e f) (hh : ∀ h ∈ hs, h.Agrees e f) :
    h.selected hs e = h.selected hs f := by
  cases h with
  | host ss | target ss | platform ss =>
    simp only [selected]
    exact Selectors.selects_congr (ha.selectors rfl) (agrees_of_mem_selectorsOf hh)
  | hostTarget ss ts =>
    have hs : ss.Agrees .host e f := congrArg some ha.1
    have ht : ts.Agrees .target e f := congrArg some ha.2
    simp only [selected]
    rw [Selectors.selects_congr hs (by simp), Selectors.selects_congr ht (by simp)]
  | attempt => rfl

theorem selectedByName_congr (ha : h.Agrees e f) : h.selectedByName e = h.selectedByName f := by
  rw [selectedByName, selectedByName]
  cases hs : h.selectors? with
  | none => rfl
  | some ss => exact Selectors.selectsByName_congr (ha.selectors hs)

theorem rival?_congr (ha : h.Agrees e f) (hh : ∀ h ∈ hs, h.Agrees e f) :
    h.rival? hs e = h.rival? hs f := by
  rw [rival?, rival?, selectedByName_congr ha]
  congr 1
  induction hs with
  | nil => rfl
  | cons g hs ih =>
    rw [List.find?_cons, List.find?_cons, selectedByName_congr (hh g List.mem_cons_self),
      ih fun h hm => hh h (List.mem_cons_of_mem g hm)]

end Clause.Head

def subjectText (e : Environment) (h : Head) : String := (h.kind.subject? e).getD ""

/-- The same outcome in two environments, but for the subject in the text of an ambiguity. The clause
that is ambiguous satisfies `P`. -/
inductive Agree (P : Head → Prop) (e f : Environment) {α : Type} :
    Except GrammarError α → Except GrammarError α → Prop
  | same : Agree P e f r r
  | ambiguous : P h → Agree P e f (.error (.ambiguous h g (subjectText e h)))
      (.error (.ambiguous h g (subjectText f h)))

theorem Agree.bind {P : Head → Prop} {e f : Environment} {α β : Type} {r r' : Except GrammarError α}
    {k k' : α → Except GrammarError β} (h : Agree P e f r r') (hk : ∀ a, Agree P e f (k a) (k' a)) :
    Agree P e f (r >>= k) (r' >>= k') := by
  cases h with
  | same =>
    cases r with
    | error x => exact .same
    | ok a => exact hk a
  | ambiguous hp => exact .ambiguous hp

theorem Agree.eq {P : Head → Prop} {e f : Environment} {α : Type} {r r' : Except GrammarError α}
    (h : Agree P e f r r') (hs : ∀ h, P h → subjectText e h = subjectText f h) : r = r' := by
  cases h with
  | same => rfl
  | ambiguous hp => rw [hs _ hp]

theorem Agree.eq_or_ambiguous {P : Head → Prop} {e f : Environment} {α : Type}
    {r r' : Except GrammarError α} (h : Agree P e f r r') :
    r = r' ∨ ∃ h g s s', r = .error (.ambiguous h g s) ∧ r' = .error (.ambiguous h g s') := by
  cases h with
  | same => exact .inl rfl
  | ambiguous _ => exact .inr ⟨_, _, _, _, rfl, rfl⟩

theorem Agree.recover {P : Head → Prop} {e f : Environment} {r r' : Except GrammarError Value}
    {k k' : Value → Except GrammarError Value} {l l' : GrammarError → Except GrammarError Value}
    (h : Agree P e f r r') (hk : ∀ v, Agree P e f (k v) (k' v)) (hl : ∀ x, Agree P e f (l x) (l' x)) :
    Agree P e f (Statement.recover r k l) (Statement.recover r' k' l') := by
  cases h with
  | same =>
    cases r with
    | error x =>
      simp only [Statement.recover]
      split
      · exact hl x
      · exact .same
    | ok v => exact hk v
  | ambiguous hp => exact .ambiguous hp

namespace Statement

theorem mem_allHeadsList_of_mem_heads {h : Head} {ss : List Statement} (hm : h ∈ heads ss) :
    h ∈ allHeadsList ss := by
  induction ss with
  | nil => cases hm
  | cons s ss ih =>
    rw [allHeadsList, List.mem_append]
    rw [heads, List.filterMap_cons] at hm
    cases s with
    | clause k b bs =>
      rcases List.mem_cons.1 hm with rfl | hm
      · exact .inl List.mem_cons_self
      · exact .inr (ih hm)
    | leaf v | sequence ts | mapping es => exact .inr (ih hm)

variable {P : Head → Prop} {σ : Settings} {f : Environment}

def ByName (P : Head → Prop) (e : Environment) (h : Head) : Prop := P h ∧ h.selectedByName e

theorem settle_agree (hP : ∀ h, P h → h.Agrees σ.env f) {s : Statement} {others : List Head}
    (hs : ∀ h ∈ s.head?, P h) (ho : ∀ h ∈ others, P h) (v : Value) :
    Agree (ByName P σ.env) σ.env f (settle σ.env s others v) (settle f s others v) := by
  rw [settle, settle]
  cases hh : s.head? with
  | none => exact .same
  | some h =>
    have hp := hs h hh
    dsimp only
    rw [← h.rival?_congr (hP h hp) fun g hg => hP g (ho g hg)]
    cases hr : h.rival? others σ.env with
    | none => exact .same
    | some g =>
      refine .ambiguous ⟨hp, ?_⟩
      rw [Head.rival?] at hr
      split at hr
      · assumption
      · cases hr

mutual

theorem eval_agree (σ : Settings) (hP : ∀ h, P h → h.Agrees σ.env f) (ht : σ.transformer = none)
    (path : List Statement) (siblings : List Head) (hs : ∀ h ∈ siblings, P h) :
    ∀ t : Statement, (∀ h ∈ t.allHeads, P h) → Agree (ByName P σ.env) σ.env f
      (eval σ path siblings t) (eval { σ with env := f } path siblings t)
  | .leaf v, _ => by
    by_cases hv : v = .unset
    · subst hv
      exact .same
    · rw [eval_leaf hv, eval_leaf hv]
      simp only [Settings.leaf, ht]
      exact .same
  | .sequence ss, hp => by
    have hh : ∀ h ∈ heads ss, P h := fun h hm => hp h (mem_allHeadsList_of_mem_heads hm)
    rw [eval, eval]
    exact evalItems_agree σ hP ht path (heads ss) hh [] (by simp) (start ss) ss hp
  | .mapping es, hp => by
    rw [eval, eval]
    exact (evalEntries_agree σ.inside hP ht path es hp).bind fun _ => .same
  | .clause h b bs, hp => by
    have hb := eval_agree σ hP ht (path ++ [.clause h b bs]) [] (by simp) b
      fun h hm => hp h (by simp [allHeads, hm])
    have hbs : ∀ h ∈ allHeadsBranches bs, P h := fun h hm => hp h (by simp [allHeads, hm])
    by_cases hk : h = .attempt
    · subst hk
      rw [eval_attempt, eval_attempt]
      exact hb.recover (fun _ => .same) fun x => evalFallback_agree σ hP ht path (some x) bs hbs
    · have hh : P h := hp h (by simp [allHeads])
      rw [eval_clause hk, eval_clause hk, h.selected_congr (hP h hh) fun g hg => hP g (hs g hg)]
      split
      · exact hb
      · exact evalBranches_agree σ hP ht path h bs hbs
termination_by structural t => t

theorem evalBranches_agree (σ : Settings) (hP : ∀ h, P h → h.Agrees σ.env f)
    (ht : σ.transformer = none) (path : List Statement) (h : Head) :
    ∀ bs : List Branch, (∀ h ∈ allHeadsBranches bs, P h) → Agree (ByName P σ.env) σ.env f
      (evalBranches σ path h bs) (evalBranches { σ with env := f } path h bs)
  | [], _ | .fail :: _, _ => .same
  | .body s :: bs, hp => by
    have hs := eval_agree σ hP ht path [] (by simp) s fun h hm => hp h (by simp [allHeadsBranches, hm])
    rw [evalBranches_body, evalBranches_body]
    apply hs.bind
    intro v
    split
    · exact evalBranches_agree σ hP ht path h bs fun h hm => hp h (by simp [allHeadsBranches, hm])
    · exact .same
termination_by structural bs => bs

theorem evalFallback_agree (σ : Settings) (hP : ∀ h, P h → h.Agrees σ.env f)
    (ht : σ.transformer = none) (path : List Statement) (last : Option GrammarError) :
    ∀ bs : List Branch, (∀ h ∈ allHeadsBranches bs, P h) → Agree (ByName P σ.env) σ.env f
      (evalFallback σ path last bs) (evalFallback { σ with env := f } path last bs)
  | [], _ | .fail :: _, _ => .same
  | .body s :: bs, hp => by
    have hs := eval_agree σ hP ht path [] (by simp) s fun h hm => hp h (by simp [allHeadsBranches, hm])
    have hbs (last : Option GrammarError) := evalFallback_agree σ hP ht path last bs
      fun h hm => hp h (by simp [allHeadsBranches, hm])
    rw [evalFallback_body, evalFallback_body]
    refine hs.recover ?_ fun x => hbs (some x)
    intro v
    split
    · exact hbs none
    · exact .same
termination_by structural bs => bs

theorem evalItems_agree (σ : Settings) (hP : ∀ h, P h → h.Agrees σ.env f)
    (ht : σ.transformer = none) (path : List Statement) (siblings : List Head)
    (hs : ∀ h ∈ siblings, P h) (before : List Head) (hb : ∀ h ∈ before, P h) (g : Gathered) :
    ∀ ss : List Statement, (∀ h ∈ allHeadsList ss, P h) → Agree (ByName P σ.env) σ.env f
      (evalItems σ path siblings before g ss)
      (evalItems { σ with env := f } path siblings before g ss)
  | [], _ => .same
  | s :: ss, hp => by
    have he := eval_agree σ hP ht path siblings hs s fun h hm => hp h (by simp [allHeadsList, hm])
    have hh : ∀ h ∈ s.head?, P h := fun h hm => hp h <| mem_allHeadsList_of_mem_heads <|
      List.mem_filterMap.2 ⟨s, List.mem_cons_self, hm⟩
    have hpass : ∀ h ∈ before ++ s.head?.toList, P h := fun h hm =>
      (List.mem_append.1 hm).elim (hb h) fun hm => hh h (by simpa using hm)
    -- a rival may stand before or after the clause that is chosen
    have hothers : ∀ h ∈ before ++ heads ss, P h := fun h hm =>
      (List.mem_append.1 hm).elim (hb h) fun hm =>
        hp h (by simp [allHeadsList, mem_allHeadsList_of_mem_heads hm])
    have hss (g : Gathered) := evalItems_agree σ hP ht path siblings hs _ hpass g ss
      fun h hm => hp h (by simp [allHeadsList, hm])
    have hl : ({ σ with env := f } : Settings).asList = σ.asList := rfl
    rw [evalItems, evalItems]
    apply he.bind
    intro v
    dsimp only
    rw [hl]
    split
    · exact hss g
    · split
      · exact settle_agree hP hh hothers _
      · exact Agree.same.bind hss
termination_by structural ss => ss

theorem evalEntries_agree (σ : Settings) (hP : ∀ h, P h → h.Agrees σ.env f)
    (ht : σ.transformer = none) (path : List Statement) :
    ∀ es : List (String × Statement), (∀ h ∈ allHeadsEntries es, P h) →
      Agree (ByName P σ.env) σ.env f (evalEntries σ path es)
        (evalEntries { σ with env := f } path es)
  | [], _ => .same
  | (k, s) :: es, hp => by
    have hs := eval_agree σ hP ht path [] (by simp) s fun h hm => hp h (by simp [allHeadsEntries, hm])
    have hes := evalEntries_agree σ hP ht path es fun h hm => hp h (by simp [allHeadsEntries, hm])
    rw [evalEntries, evalEntries]
    apply hs.bind
    intro v
    exact hes.bind fun _ => .same
termination_by structural es => es

end

variable {e f : Environment} {check : Option Validator} {shape : Option Shape} {t : Statement}

theorem evaluate_agree (ha : ∀ h ∈ t.allHeads, h.Agrees e f) :
    Agree (ByName (· ∈ t.allHeads) e) e f (evaluate ⟨e, check, none, shape⟩ t)
      (evaluate ⟨f, check, none, shape⟩ t) :=
  eval_agree ⟨e, check, none, shape⟩ ha rfl [] [] (by simp) t fun _ => id

theorem evaluate_eq (ha : ∀ h ∈ t.allHeads, h.Agrees e f)
    (hs : ∀ h ∈ t.allHeads, h.selectedByName e → subjectText e h = subjectText f h) :
    evaluate ⟨e, check, none, shape⟩ t = evaluate ⟨f, check, none, shape⟩ t :=
  (evaluate_agree ha).eq fun h ⟨hm, hn⟩ => hs h hm hn

end Statement

end Recipe
