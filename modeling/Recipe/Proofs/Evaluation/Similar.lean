import Recipe.Field
import Recipe.Proofs.Evaluation.Steps
import Recipe.Proofs.List
import Recipe.Proofs.Statement.Similar

namespace Recipe

open Clause (Head)

inductive Gathered.Similar : Gathered → Gathered → Prop
  | nothing : Similar .nothing .nothing
  | list : Value.SimilarList vs ws → Similar (.list vs) (.list ws)
  | mapping : Value.SimilarUnordered es fs → Similar (.mapping es) (.mapping fs)

abbrev Leniency.Agree {α β : Type} (L : Leniency) (A : α → β → Prop) :
    Except GrammarError α → Except GrammarError β → Prop := Outcome L.errors L.fatal A

structure Settings.Respects (L : Leniency) (σ : Settings) : Prop where
  transformer : σ.transformer = none
  validate : ∀ {v w}, v.Similar w → L.Agree Value.Similar (σ.validate v) (σ.validate w)

variable {L : Leniency} {σ : Settings}

theorem Settings.Respects.inside (h : σ.Respects L) : σ.inside.Respects L where
  transformer := h.transformer
  validate := .ok

theorem Settings.Respects.leaf (h : σ.Respects L) (path path' : List Statement) {v w : Value}
    (hv : v.Similar w) : L.Agree Value.Similar (σ.leaf path v) (σ.leaf path' w) := by
  rw [Settings.leaf, Settings.leaf, h.transformer]
  exact h.validate hv

namespace Gathered

variable {g g' : Gathered} {v w : Value}

theorem Similar.value (h : g.Similar g') : g.value.Similar g'.value := by
  cases h with
  | nothing => exact .unset
  | list h => exact .sequence h
  | mapping h => exact Value.similar_mapping_iff.2 h

theorem Similar.settles_eq (h : g.Similar g') (hv : v.Similar w) (asList : Bool) :
    g.settles asList v = g'.settles asList w := by
  cases h with
  | nothing => rw [settles, settles, hv.isScalar_eq]
  | list | mapping => rfl

theorem similar_contribution (hv : v.Similar w) (ofClause : Bool) :
    Value.SimilarList (v.contribution ofClause) (w.contribution ofClause) := by
  cases hv with
  | sequence h =>
    simp only [Value.contribution]
    split
    · exact h
    · exact .cons (.sequence h) .nil
  | unset => exact .cons .unset .nil
  | scalar => exact .cons .scalar .nil
  | mapping h hp => exact .cons (.mapping h hp) .nil

theorem Similar.add (h : g.Similar g') (hv : v.Similar w) (asList ofClause : Bool) :
    L.Agree Similar (g.add asList ofClause v) (g'.add asList ofClause w) := by
  cases h with
  | list h => exact .ok (.list (h.append (similar_contribution hv ofClause)))
  | mapping h =>
    cases hv with
    | mapping h' hp => exact .ok (.mapping (h.union ⟨_, h', hp⟩))
    | unset => exact .error (L.of_similar _ _ (.mismatch .unset))
    | scalar => exact .error (L.of_similar _ _ (.mismatch .scalar))
    | sequence h' => exact .error (L.of_similar _ _ (.mismatch (.sequence h')))
  | nothing =>
    cases hv with
    | mapping h' hp =>
      simp only [Gathered.add]
      split
      · exact .ok (.list (.cons (.mapping h' hp) .nil))
      · exact .ok (.mapping ⟨_, h', hp⟩)
    | unset => exact .ok (.list (similar_contribution .unset ofClause))
    | scalar => exact .ok (.list (similar_contribution .scalar ofClause))
    | sequence h' => exact .ok (.list (similar_contribution (.sequence h') ofClause))

end Gathered

namespace Statement

variable {s t : Statement} {ss ts : List Statement}

theorem SimilarList.heads_eq (h : SimilarList L ss ts) : heads ss = heads ts := by
  induction ss generalizing ts with
  | nil =>
    cases h
    rfl
  | cons s ss ih =>
    cases h with
    | cons hs hss =>
      have ih := ih hss
      rw [heads, heads] at ih
      rw [heads, heads, List.filterMap_cons, List.filterMap_cons, hs.head?_eq, ih]

theorem SimilarList.start_eq (h : SimilarList L ss ts) : start ss = start ts := by
  rw [start, start, h.all_isClause_eq]
  cases h <;> rfl

theorem settle_similar (hs : Similar L s t) {v w : Value} (hv : v.Similar w) (env : Environment)
    (others : List Head) : L.Agree Value.Similar (settle env s others v) (settle env t others w) := by
  rw [settle, settle, hs.head?_eq]
  cases t.head? with
  | none => exact .ok hv
  | some h =>
    dsimp only
    cases h.rival? others env with
    | none => exact .ok hv
    | some g => exact .error (L.of_similar _ _ .refl)

theorem recover_similar (ht : L.tries) {r r' : Except GrammarError Value}
    {k k' : Value → Except GrammarError Value} {l l' : GrammarError → Except GrammarError Value}
    (h : L.Agree Value.Similar r r')
    (hk : ∀ v w, v.Similar w → L.Agree Value.Similar (k v) (k' w))
    (hl : ∀ e e', L.errors e e' → L.Agree Value.Similar (l e) (l' e')) :
    L.Agree Value.Similar (recover r k l) (recover r' k' l') := by
  cases h with
  | ok hv => exact hk _ _ hv
  | error he =>
    rename_i e e'
    have hm := L.of_tries ht e e' he
    simp only [recover]
    cases he₁ : e.isMismatch <;> cases he₂ : e'.isMismatch
    · exact .error he
    · exact .left (hm.resolve_left (by simp [he₁, he₂])) he₁
    · exact .right (hm.resolve_left (by simp [he₁, he₂])) he₂
    · exact hl e e' he
  | left hf he =>
    simp only [recover, he]
    exact .left hf he
  | right hf he =>
    simp only [recover, he]
    exact .right hf he

def PairAlike (L : Leniency) (σ : Settings) (path path' : List Statement) (e f : String × Statement) :
    Prop :=
  e.1 = f.1 ∧ L.Agree Value.Similar (eval σ path [] e.2) (eval σ path' [] f.2)

section Entries

variable {path path' : List Statement} {es fs gs : List (String × Statement)}

theorem evalEntries_similar_of_pairs (h : List.Forall₂ (PairAlike L σ path path') es fs) :
    L.Agree Value.SimilarEntries (evalEntries σ path es) (evalEntries σ path' fs) := by
  induction es generalizing fs with
  | nil =>
    cases h
    exact .ok .nil
  | cons e es ih =>
    cases h with
    | cons hp h =>
      rename_i f fs
      obtain ⟨k, s⟩ := e
      obtain ⟨_, t⟩ := f
      obtain ⟨rfl, hst⟩ := hp
      rw [evalEntries, evalEntries]
      apply Outcome.bind hst
      intro v w hv
      apply (ih h).bind
      intro vs ws hvs
      rw [hv.isUnset_eq]
      split
      · exact .ok hvs
      · exact .ok (.cons hv hvs)

theorem evalEntries_cons_eq_ok {k : String} {s : Statement} {ws : Entries Value} :
    evalEntries σ path ((k, s) :: es) = .ok ws ↔ ∃ v vs, eval σ path [] s = .ok v ∧
      evalEntries σ path es = .ok vs ∧ (if v.isUnset then vs else (k, v) :: vs) = ws := by
  rw [evalEntries]
  simp only [Except.bind_eq_ok, pure, Except.pure, Except.ok.injEq]
  constructor
  · rintro ⟨v, hv, vs, hvs, h⟩
    exact ⟨v, vs, hv, hvs, h⟩
  · rintro ⟨v, vs, hv, hvs, h⟩
    exact ⟨v, hv, vs, hvs, h⟩

theorem forall_of_evalEntries_ok {vs : Entries Value} (h : evalEntries σ path es = .ok vs) :
    ∀ x ∈ es, ∃ v, eval σ path [] x.2 = .ok v := by
  induction es generalizing vs with
  | nil => simp
  | cons x es ih =>
    obtain ⟨v, ws, hv, hws, -⟩ := evalEntries_cons_eq_ok.1 h
    exact List.forall_mem_cons.2 ⟨⟨v, hv⟩, ih hws⟩

theorem exists_of_evalEntries_error {e : GrammarError} (h : evalEntries σ path es = .error e) :
    ∃ x ∈ es, eval σ path [] x.2 = .error e := by
  induction es with
  | nil => cases h
  | cons x es ih =>
    obtain ⟨k, s⟩ := x
    rw [evalEntries] at h
    cases hs : eval σ path [] s with
    | error e' =>
      rw [hs] at h
      cases h
      exact ⟨_, List.mem_cons_self, hs⟩
    | ok v =>
      rw [hs, Except.ok_bind] at h
      cases hes : evalEntries σ path es with
      | error e' =>
        rw [hes] at h
        cases h
        obtain ⟨y, hm, hy⟩ := ih hes
        exact ⟨y, List.mem_cons_of_mem _ hm, hy⟩
      | ok vs =>
        rw [hes] at h
        cases h

theorem evalEntries_perm (h : gs.Perm fs) {ws : Entries Value} (hw : evalEntries σ path fs = .ok ws) :
    ∃ vs, evalEntries σ path gs = .ok vs ∧ vs.Perm ws := by
  induction h generalizing ws with
  | nil => exact ⟨ws, hw, .refl ws⟩
  | cons x _ ih =>
    obtain ⟨v, ws, hv, hws, rfl⟩ := evalEntries_cons_eq_ok.1 hw
    obtain ⟨vs, hvs, hp⟩ := ih hws
    refine ⟨_, evalEntries_cons_eq_ok.2 ⟨v, vs, hv, hvs, rfl⟩, ?_⟩
    split
    · exact hp
    · exact hp.cons _
  | swap x y es =>
    obtain ⟨v, us, hv, hus, rfl⟩ := evalEntries_cons_eq_ok.1 hw
    obtain ⟨w, ws, hy, hws, rfl⟩ := evalEntries_cons_eq_ok.1 hus
    have hx : evalEntries σ path (x :: es) = .ok _ :=
      evalEntries_cons_eq_ok.2 ⟨v, ws, hv, hws, rfl⟩
    refine ⟨_, evalEntries_cons_eq_ok.2 ⟨w, _, hy, hx, rfl⟩, ?_⟩
    split
    · split <;> exact .refl _
    · split
      · exact .refl _
      · exact .swap ..
  | trans _ _ ih ih' =>
    obtain ⟨us, hus, hp'⟩ := ih' hw
    obtain ⟨vs, hvs, hp⟩ := ih hus
    exact ⟨vs, hvs, hp.trans hp'⟩

theorem evalEntries_unordered (hu : L.unordered)
    (h : List.Forall₂ (PairAlike L σ path path') es gs) (hp : gs.Perm fs) :
    L.Agree Value.SimilarUnordered (evalEntries σ path es) (evalEntries σ path' fs) := by
  cases he : evalEntries σ path es with
  | ok vs =>
    cases hf : evalEntries σ path' fs with
    | ok ws =>
      obtain ⟨us, hus, hp'⟩ := evalEntries_perm hp hf
      have h := evalEntries_similar_of_pairs h
      rw [he, hus] at h
      exact .ok ⟨us, h.of_ok, hp'⟩
    | error e =>
      -- only one side fails: the entry at fault has a value on the other side, so that `fatal` must hold
      obtain ⟨y, hy, hye⟩ := exists_of_evalEntries_error hf
      obtain ⟨x, hx, hxy⟩ := exists_of_forall₂ h.flip y (hp.mem_iff.2 hy)
      obtain ⟨v, hv⟩ := forall_of_evalEntries_ok he x hx
      have hxy := hxy.2
      rw [hv, hye] at hxy
      cases hxy with
      | right hf hm => exact .right hf hm
  | error e =>
    cases hf : evalEntries σ path' fs with
    | error e' => exact .error (L.of_unordered hu e e')
    | ok ws =>
      obtain ⟨x, hx, hxe⟩ := exists_of_evalEntries_error he
      obtain ⟨y, hy, hxy⟩ := exists_of_forall₂ h x hx
      obtain ⟨w, hw⟩ := forall_of_evalEntries_ok hf y (hp.mem_iff.1 hy)
      have hxy := hxy.2
      rw [hxe, hw] at hxy
      cases hxy with
      | left hf hm => exact .left hf hm

end Entries

mutual

theorem eval_similar (σ : Settings) (hσ : σ.Respects L) (siblings : List Head) {s t : Statement} :
    Similar L s t → ∀ path path', L.Agree Value.Similar (eval σ path siblings s) (eval σ path' siblings t)
  | .leaf h, path, path' => by
    cases h with
    | unset => exact .ok .unset
    | scalar =>
      rw [eval_leaf (by simp), eval_leaf (by simp)]
      exact hσ.leaf path path' .scalar
    | sequence h =>
      rw [eval_leaf (by simp), eval_leaf (by simp)]
      exact hσ.leaf path path' (.sequence h)
    | mapping h hp =>
      rw [eval_leaf (by simp), eval_leaf (by simp)]
      exact hσ.leaf path path' (.mapping h hp)
  | .clause (h := h) ht hb hbs, path, path' => by
    by_cases hk : h = .attempt
    · subst hk
      have ht := ht rfl
      rw [eval_attempt, eval_attempt]
      apply recover_similar ht (eval_similar σ hσ [] hb _ _) (fun _ _ => .ok)
      intro e e' he
      exact evalFallback_similar σ hσ ht (.some he) hbs path path'
    · rw [eval_clause hk, eval_clause hk]
      split
      · exact eval_similar σ hσ [] hb _ _
      · exact evalBranches_similar σ hσ h hbs path path'
  | .sequence h, path, path' => by
    rw [eval, eval, h.heads_eq, h.start_eq]
    apply evalItems_similar σ hσ _ [] ?_ h path path'
    rw [start]
    split
    · exact .list .nil
    · exact .nothing
  | .mapping h, path, path' => by
    rw [eval, eval]
    apply (evalEntries_similar_of_pairs (evalPairs_similar σ.inside hσ.inside h path path')).bind
    intro vs ws hvs
    exact hσ.validate (.mapping hvs (.refl ws))
  | .unordered hu h hp, path, path' => by
    rw [eval, eval]
    apply (evalEntries_unordered hu (evalPairs_similar σ.inside hσ.inside h path path') hp).bind
    intro vs ws hvs
    exact hσ.validate (Value.similar_mapping_iff.2 hvs)

theorem evalBranches_similar (σ : Settings) (hσ : σ.Respects L) (h : Head) {bs cs : List Branch} :
    SimilarBranches L bs cs → ∀ path path',
      L.Agree Value.Similar (evalBranches σ path h bs) (evalBranches σ path' h cs)
  | .nil, _, _ => .ok .unset
  | .fail _, _, _ => .error (L.of_similar _ _ .refl)
  | .body hs hbs, path, path' => by
    rw [evalBranches_body, evalBranches_body]
    apply (eval_similar σ hσ [] hs path path').bind
    intro v w hv
    rw [hv.isUnset_eq]
    split
    · exact evalBranches_similar σ hσ h hbs path path'
    · exact .ok hv

theorem evalFallback_similar (σ : Settings) (hσ : σ.Respects L) (ht : L.tries)
    {last last' : Option GrammarError} (hl : Option.Rel L.errors last last') {bs cs : List Branch} :
    SimilarBranches L bs cs → ∀ path path',
      L.Agree Value.Similar (evalFallback σ path last bs) (evalFallback σ path' last' cs)
  | .nil, _, _ => by
    cases hl with
    | none => exact .ok .unset
    | some he => exact .error he
  | .fail _, _, _ => .error (L.of_similar _ _ .refl)
  | .body hs hbs, path, path' => by
    rw [evalFallback_body, evalFallback_body]
    apply recover_similar ht (eval_similar σ hσ [] hs path path')
    · intro v w hv
      rw [hv.isUnset_eq]
      split
      · exact evalFallback_similar σ hσ ht .none hbs path path'
      · exact .ok hv
    · intro e e' he
      exact evalFallback_similar σ hσ ht (.some he) hbs path path'

theorem evalItems_similar (σ : Settings) (hσ : σ.Respects L) (siblings before : List Head)
    {g g' : Gathered} (hg : g.Similar g') {ss ts : List Statement} :
    SimilarList L ss ts → ∀ path path', L.Agree Value.Similar
      (evalItems σ path siblings before g ss) (evalItems σ path' siblings before g' ts)
  | .nil, _, _ => .ok hg.value
  | .cons hs hss, path, path' => by
    rw [evalItems, evalItems]
    apply (eval_similar σ hσ siblings hs path path').bind
    intro v w hv
    dsimp only
    rw [hv.isUnset_eq, hg.settles_eq hv, hs.head?_eq, hs.isClause_eq, hss.heads_eq]
    split
    · exact evalItems_similar σ hσ siblings _ hg hss path path'
    · split
      · exact settle_similar hs hv σ.env _
      · apply (hg.add hv σ.asList _).bind
        intro g₁ g₂ hg'
        exact evalItems_similar σ hσ siblings _ hg' hss path path'

theorem evalPairs_similar (σ : Settings) (hσ : σ.Respects L) {es fs : List (String × Statement)} :
    SimilarEntries L es fs → ∀ path path', List.Forall₂ (PairAlike L σ path path') es fs
  | .nil, _, _ => .nil
  | .cons hs hes, path, path' =>
    .cons ⟨rfl, eval_similar σ hσ [] hs path path'⟩ (evalPairs_similar σ hσ hes path path')

end

end Statement

end Recipe
