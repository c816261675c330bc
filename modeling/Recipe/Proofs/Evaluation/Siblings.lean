import Recipe.Proofs.Evaluation.Steps

namespace Recipe

open Clause (Head Kind)

namespace Selectors

variable {ss : Selectors} {siblings : List Selectors} {k : Kind} {env : Environment}

theorem claims_of_isOther (h : ss.isOther) (s : String) : ss.claims s = false := by
  rw [claims, isWildcard, h]
  rfl

theorem selects_alone (h : ss.isOther → ∀ ts ∈ siblings, ts.isOther) :
    ss.selects siblings k env = ss.selects [] k env := by
  rw [selects, selects]
  cases k.subject? env with
  | none => rfl
  | some s =>
    dsimp only
    by_cases ho : ss.isOther
    · have hs : siblings.any (claims s) = false := by
        rw [List.any_eq_false]
        intro ts hts
        rw [claims_of_isOther (h ho ts hts)]
        exact Bool.false_ne_true
      rw [hs, List.any_nil]
    · rw [if_neg ho, if_neg ho]

theorem selects_perm {siblings' : List Selectors} (hp : siblings.Perm siblings') :
    ss.selects siblings k env = ss.selects siblings' k env := by
  simp only [selects, hp.any_eq]

end Selectors

namespace Clause.Head

def isOther (h : Head) : Bool := h.selectors?.any Selectors.isOther

theorem isOther_of_mem_selectorsOf {k : Kind} {hs : List Head} (hh : ∀ g ∈ hs, g.isOther) :
    ∀ ts ∈ hs.filterMap (selectorsOf k), ts.isOther := by
  intro ts hts
  obtain ⟨g, hg, hts⟩ := List.mem_filterMap.1 hts
  have ho := hh g hg
  rw [selectorsOf] at hts
  split at hts
  · rwa [isOther, hts] at ho
  · cases hts

theorem selected_alone {h : Head} {siblings : List Head} {env : Environment}
    (hh : h.isOther → ∀ g ∈ siblings, g.isOther) : h.selected siblings env = h.selected [] env := by
  cases h with
  | host ss | target ss | platform ss =>
    rw [selected, selected, List.filterMap_nil]
    exact Selectors.selects_alone fun ho => isOther_of_mem_selectorsOf (hh ho)
  | hostTarget | attempt => rfl

variable {env : Environment} {h : Head} {hs hs' : List Head}

def byName (env : Environment) (hs : List Head) : List Head := hs.filter (·.selectedByName env)

theorem byName_append (env : Environment) (hs hs' : List Head) :
    byName env (hs ++ hs') = byName env hs ++ byName env hs' := List.filter_append ..

theorem byName_insert (hn : h.selectedByName env = false) (hs hs' : List Head) :
    byName env (hs ++ h :: hs') = byName env (hs ++ hs') := by
  rw [byName_append, byName_append, byName, byName, List.filter_cons_of_neg (by rw [hn]; decide)]
  rfl

theorem claims_selectorsOf {k : Kind} {s : String} (hk : k.subject? env = some s) (g : Head) :
    (g.selectorsOf k).any (Selectors.claims s) = (g.selectedByName env && g.kind = k) := by
  rw [selectorsOf, selectedByName]
  by_cases hg : g.kind = k
  · subst hg
    rw [if_pos rfl]
    cases g.selectors? with
    | none => rfl
    | some ss => simp [Selectors.selectsByName, hk]
  · rw [if_neg hg]
    simp [hg]

theorem any_claims_eq {k : Kind} {s : String} (hk : k.subject? env = some s) (hs : List Head) :
    (hs.filterMap (selectorsOf k)).any (Selectors.claims s) = (byName env hs).any fun g => g.kind = k := by
  rw [byName, List.any_filter, List.any_filterMap]
  congr 1
  funext g
  rw [← claims_selectorsOf hk g]
  cases g.selectorsOf k <;> rfl

theorem selected_congr_byName (h : Head) (hn : byName env hs = byName env hs') :
    h.selected hs env = h.selected hs' env := by
  cases h with
  | host ss | target ss | platform ss =>
    simp only [selected, Selectors.selects, Kind.subject?]
    rw [any_claims_eq rfl, any_claims_eq rfl, hn]
  | hostTarget | attempt => rfl

theorem filterMap_selectorsOf (k : Kind) (hs : List Head) :
    hs.filterMap (selectorsOf k) = (hs.filter (·.kind = k)).filterMap selectors? := by
  rw [List.filterMap_filter]
  simp only [decide_eq_true_eq]
  rfl

theorem selected_congr_kind (h : Head)
    (hp : (hs.filter (·.kind = h.kind)).Perm (hs'.filter (·.kind = h.kind))) :
    h.selected hs env = h.selected hs' env := by
  cases h with
  | host ss | target ss | platform ss =>
    simp only [selected, filterMap_selectorsOf]
    exact Selectors.selects_perm (hp.filterMap selectors?)
  | hostTarget | attempt => rfl

theorem selected_perm (hp : hs.Perm hs') (h : Head) : h.selected hs env = h.selected hs' env :=
  h.selected_congr_kind (hp.filter _)

theorem rival?_congr_byName (h : Head) (hn : byName env hs = byName env hs') :
    h.rival? hs env = h.rival? hs' env := by
  have hfind (hs : List Head) : (hs.find? fun g => g.kind = h.kind ∧ g.selectedByName env) =
      (byName env hs).find? fun g => g.kind = h.kind := by
    rw [byName, List.find?_filter]
    congr 1
    funext g
    simp only [Bool.decide_and, Bool.decide_eq_true]
    exact Bool.and_comm ..
  rw [rival?, rival?, hfind, hfind, hn]

end Clause.Head

namespace Statement

variable {σ : Settings} {path : List Statement} {siblings siblings' before before' : List Head}
  {g : Gathered} {ss : List Statement}

theorem eval_congr_siblings {s : Statement}
    (hh : ∀ h ∈ s.head?, h.selected siblings σ.env = h.selected siblings' σ.env) :
    eval σ path siblings s = eval σ path siblings' s := by
  cases s with
  | leaf v =>
    by_cases hv : v = .unset
    · rw [hv, eval, eval]
    · rw [eval_leaf hv, eval_leaf hv]
  | clause h b bs =>
    by_cases hk : h = .attempt
    · rw [hk, eval_attempt, eval_attempt]
    · rw [eval_clause hk, eval_clause hk, hh h rfl]
  | sequence ss | mapping es => rw [eval, eval]

theorem eval_alone {s : Statement} (hh : ∀ h ∈ s.head?, h.isOther → ∀ g ∈ siblings, g.isOther) :
    eval σ path siblings s = eval σ path [] s :=
  eval_congr_siblings fun h hm => Head.selected_alone (hh h hm)

theorem eval_congr_byName (hn : Head.byName σ.env siblings = Head.byName σ.env siblings')
    (s : Statement) : eval σ path siblings s = eval σ path siblings' s :=
  eval_congr_siblings fun h _ => h.selected_congr_byName hn

theorem settle_congr_byName (hn : Head.byName σ.env before = Head.byName σ.env before') (s : Statement)
    (v : Value) : settle σ.env s before v = settle σ.env s before' v := by
  rw [settle, settle]
  cases s.head? with
  | none => rfl
  | some h =>
    dsimp only
    rw [h.rival?_congr_byName hn]

theorem evalItems_congr_byName (hs : Head.byName σ.env siblings = Head.byName σ.env siblings')
    (hb : Head.byName σ.env before = Head.byName σ.env before') :
    evalItems σ path siblings before g ss = evalItems σ path siblings' before' g ss := by
  induction ss generalizing before before' g with
  | nil => rfl
  | cons s ss ih =>
    have happ (hs : List Head) :
        Head.byName σ.env (before ++ hs) = Head.byName σ.env (before' ++ hs) := by
      rw [Head.byName_append, Head.byName_append, hb]
    simp only [evalItems, eval_congr_byName hs, settle_congr_byName (happ (heads ss)),
      ih (happ s.head?.toList)]

end Statement

end Recipe
