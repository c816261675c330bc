import Recipe.Proofs.Evaluation.Ambiguity
import Recipe.Proofs.Evaluation.Leaves
import Recipe.Proofs.Statement.Context

/-! Where an error of evaluation comes from. A `try` takes errors back and puts others in their place, but
each that is left is the fault of one statement of the tree. -/

namespace Recipe

open Clause (Head)

namespace Statement

/-- What is wrong with a statement by itself, whatever is wrong with its parts. -/
inductive Cause (σ : Settings) : Statement → GrammarError → Prop
  | leaf : σ.validator = some check → check (σ.transform path v) = .error r →
      Cause σ (.leaf v) (.mismatch r.expected (σ.transform path v))
  | mapping : σ.validator = some check → check (.mapping fs) = .error r →
      Cause σ (.mapping es) (.mismatch r.expected (.mapping fs))
  | fail : .fail ∈ bs → Cause σ (.clause h b bs) (.unsatisfied h)
  | rivals {i j : Nat} : i ≠ j → ss[i]?.bind head? = some h → ss[j]?.bind head? = some g → g.kind = h.kind →
      h.kind.subject? σ.env = some subject → h.selectedByName σ.env → g.selectedByName σ.env →
      Cause σ (.sequence ss) (.ambiguous h g subject)
  | merge : 2 ≤ ss.length → (∀ s ∈ ss, s.isClause) → Cause σ (.sequence ss) (.mismatch "a mapping" v)

def Causes (σ : Settings) (t : Statement) (e : GrammarError) : Prop := ∃ s, s.PartOf t ∧ Cause σ s e

variable {σ : Settings} {s t u : Statement} {e : GrammarError}

theorem Cause.of_inside (h : Cause σ.inside s e) : Cause σ s e := by
  cases h with
  | leaf hv | mapping hv => cases hv
  | fail h => exact .fail h
  | rivals hij hi hj hk hs hh hg => exact .rivals hij hi hj hk hs hh hg
  | merge hl hc => exact .merge hl hc

theorem Cause.causes (h : Cause σ s e) : Causes σ s e := ⟨s, .refl s, h⟩

theorem Causes.mono (h : Causes σ t e) (hp : ∀ s : Statement, s.PartOf t → s.PartOf u) :
    Causes σ u e := by
  obtain ⟨s, hs, hc⟩ := h
  exact ⟨s, hp s hs, hc⟩

theorem Causes.of_inside (h : Causes σ.inside t e) : Causes σ t e := by
  obtain ⟨s, hs, hc⟩ := h
  exact ⟨s, hs, hc.of_inside⟩

section Items

variable {g g' : Gathered} {passed ss : List Statement}

/-- Of an alternation whose first statements are `passed`, only clauses are gathered without a list, and a
mapping is from one that is passed. -/
structure Gathers (g : Gathered) (passed ss : List Statement) : Prop where
  isClause : (∀ vs, g ≠ .list vs) → ∀ s ∈ passed ++ ss, s.isClause
  ne_nil : ∀ es, g = .mapping es → passed ≠ []

theorem gathers_start (ss : List Statement) : Gathers (start ss) [] ss where
  isClause hn := by
    rw [start] at hn
    split at hn
    · exact absurd rfl (hn [])
    · rename_i h
      simp only [Bool.or_eq_true, Bool.not_eq_true', not_or, Bool.not_eq_false] at h
      exact List.all_eq_true.1 h.2
  ne_nil es he := by
    rw [start] at he
    split at he <;> cases he

theorem Gathers.skip (hg : Gathers g passed (s :: ss)) : Gathers g (passed ++ [s]) ss where
  isClause hn := by
    rw [← List.append_cons]
    exact hg.isClause hn
  ne_nil _ _ := by simp

theorem Gathers.add {asList ofClause : Bool} {v : Value} (hg : Gathers g passed (s :: ss))
    (h : g.add asList ofClause v = .ok g') : Gathers g' (passed ++ [s]) ss where
  isClause hn := by
    apply hg.skip.isClause
    rintro vs rfl
    cases h
    exact hn _ rfl
  ne_nil _ _ := by simp

theorem heads_concat (ss : List Statement) (s : Statement) :
    heads (ss ++ [s]) = heads ss ++ s.head?.toList := by
  rw [heads, List.filterMap_append, List.filterMap_cons]
  cases s.head? <;> rfl

theorem exists_of_mem_heads {h : Head} (hh : h ∈ heads ss) :
    ∃ i < ss.length, ss[i]?.bind head? = some h := by
  obtain ⟨s, hs, hh⟩ := List.mem_filterMap.1 hh
  obtain ⟨i, hi, rfl⟩ := List.getElem_of_mem hs
  exact ⟨i, hi, by rw [List.getElem?_eq_getElem hi, Option.bind_some, hh]⟩

theorem exists_of_mem_beside {h : Head} (hh : h ∈ heads passed ++ heads ss) :
    ∃ i : Nat, passed.length ≠ i ∧ (passed ++ s :: ss)[i]?.bind head? = some h := by
  rcases List.mem_append.1 hh with hh | hh
  · obtain ⟨i, hl, hi⟩ := exists_of_mem_heads hh
    exact ⟨i, Nat.ne_of_gt hl, by rw [List.getElem?_append_left hl, hi]⟩
  · obtain ⟨i, -, hi⟩ := exists_of_mem_heads hh
    refine ⟨passed.length + (i + 1), by omega, ?_⟩
    rw [List.getElem?_append_right (Nat.le_add_right ..), Nat.add_sub_cancel_left,
      List.getElem?_cons_succ, hi]

theorem cause_of_settle {v : Value} (h : settle σ.env s (heads passed ++ heads ss) v = .error e) :
    Cause σ (.sequence (passed ++ s :: ss)) e := by
  obtain ⟨k, g, hk, hr, rfl⟩ := settle_eq_error h
  obtain ⟨hn, hm, hkind, hg⟩ := Head.of_rival?_eq_some hr
  obtain ⟨i, hi, hget⟩ := exists_of_mem_beside (s := s) hm
  have hc := hn
  rw [Head.selectedByName_eq, Bool.and_eq_true] at hc
  obtain ⟨subject, hs⟩ := Head.exists_subject? σ.env hc.1
  rw [hs]
  exact .rivals hi (by simp [hk]) hget hkind hs hn hg

theorem cause_of_add {asList ofClause : Bool} {v : Value} (hg : Gathers g passed (s :: ss))
    (h : g.add asList ofClause v = .error e) : Cause σ (.sequence (passed ++ s :: ss)) e := by
  obtain ⟨⟨es, rfl⟩, rfl⟩ := Gathered.add_eq_error h
  have hp := List.length_pos_of_ne_nil (hg.ne_nil es rfl)
  refine .merge ?_ (hg.isClause fun vs hv => by cases hv)
  rw [List.length_append, List.length_cons]
  omega

end Items

mutual

theorem causes_of_eval {σ : Settings} {path : List Statement} {siblings : List Head} :
    ∀ (s : Statement) {e : GrammarError}, eval σ path siblings s = .error e → Causes σ s e
  | .leaf u, e, h => by
    by_cases hu : u = .unset
    · subst hu
      cases h
    · rw [eval_leaf hu, Settings.leaf_eq] at h
      obtain ⟨check, r, hv, hr, rfl⟩ := Settings.validate_eq_error h
      exact (Cause.leaf hv hr).causes
  | .sequence ss, e, h => by
    rw [eval] at h
    exact causes_of_evalItems ss [] (gathers_start ss) h
  | .mapping es, e, h => by
    rw [eval] at h
    obtain h | ⟨fs, -, h⟩ := Except.bind_eq_error.1 h
    · exact (causes_of_evalEntries es (.refl es) h).of_inside
    · obtain ⟨check, r, hv, hr, rfl⟩ := Settings.validate_eq_error h
      exact (Cause.mapping hv hr).causes
  | .clause k b bs, e, h => by
    have hbody {e' : GrammarError} (hb : Causes σ b e') : Causes σ (.clause k b bs) e' :=
      hb.mono fun s hs => hs.body k bs
    by_cases hk : k = .attempt
    · subst hk
      rw [eval_attempt] at h
      obtain ⟨v, -, ⟨⟩⟩ | ⟨e', he, h⟩ := recover_eq_error h
      have hc := hbody (causes_of_eval b he)
      obtain h | rfl := h
      · exact causes_of_evalFallback bs (.refl bs) (by rintro _ ⟨⟩; exact hc) h
      · exact hc
    · rw [eval_clause hk] at h
      split at h
      · exact hbody (causes_of_eval b h)
      · exact causes_of_evalBranches bs (.refl bs) h
termination_by structural s => s

theorem causes_of_evalBranches {σ : Settings} {path : List Statement} {k : Head} {b : Statement}
    {cs : List Branch} : ∀ (bs : List Branch) {e : GrammarError}, bs ⊆ cs →
      evalBranches σ path k bs = .error e → Causes σ (.clause k b cs) e
  | [], e, hs, h => by cases h
  | .fail :: bs, e, hs, h => by
    cases h
    exact (Cause.fail (hs List.mem_cons_self)).causes
  | .body s :: bs, e, hs, h => by
    rw [evalBranches_body] at h
    obtain h | ⟨v, -, h⟩ := Except.bind_eq_error.1 h
    · exact (causes_of_eval s h).mono fun _ hp => hp.branch k b (hs List.mem_cons_self)
    · split at h
      · exact causes_of_evalBranches bs (List.subset_of_cons_subset hs) h
      · cases h
termination_by structural bs => bs

theorem causes_of_evalFallback {σ : Settings} {path : List Statement} {b : Statement} {cs : List Branch}
    {last : Option GrammarError} : ∀ (bs : List Branch) {e : GrammarError}, bs ⊆ cs →
      (∀ e ∈ last, Causes σ (.clause .attempt b cs) e) →
      evalFallback σ path last bs = .error e → Causes σ (.clause .attempt b cs) e
  | [], e, hs, hl, h => by
    cases last with
    | none => cases h
    | some e' =>
      cases h
      exact hl e rfl
  | .fail :: bs, e, hs, hl, h => by
    cases h
    exact (Cause.fail (hs List.mem_cons_self)).causes
  | .body s :: bs, e, hs, hl, h => by
    have hs' := List.subset_of_cons_subset hs
    rw [evalFallback_body] at h
    obtain ⟨v, -, h⟩ | ⟨e', he, h⟩ := recover_eq_error h
    · split at h
      · exact causes_of_evalFallback bs hs' (by rintro _ ⟨⟩) h
      · cases h
    · have hc : Causes σ (.clause .attempt b cs) e' :=
        (causes_of_eval s he).mono fun _ hp => hp.branch .attempt b (hs List.mem_cons_self)
      obtain h | rfl := h
      · exact causes_of_evalFallback bs hs' (by rintro _ ⟨⟩; exact hc) h
      · exact hc
termination_by structural bs => bs

theorem causes_of_evalItems {σ : Settings} {path : List Statement} {siblings : List Head}
    {g : Gathered} : ∀ (ss passed : List Statement) {e : GrammarError}, Gathers g passed ss →
      evalItems σ path siblings (heads passed) g ss = .error e → Causes σ (.sequence (passed ++ ss)) e
  | [], passed, e, hg, h => by cases h
  | s :: ss, passed, e, hg, h => by
    -- once the statement has been passed, the alternation is still the same
    have hrest {g' : Gathered} (hg' : Gathers g' (passed ++ [s]) ss)
        (h : evalItems σ path siblings (heads passed ++ s.head?.toList) g' ss = .error e) :
        Causes σ (.sequence (passed ++ s :: ss)) e := by
      rw [← heads_concat] at h
      rw [List.append_cons]
      exact causes_of_evalItems ss (passed ++ [s]) hg' h
    rw [evalItems] at h
    obtain h | ⟨v, -, h⟩ := Except.bind_eq_error.1 h
    · exact (causes_of_eval s h).mono fun _ hp => hp.item (by simp)
    · dsimp only at h
      split at h
      · exact hrest hg.skip h
      · split at h
        · exact (cause_of_settle h).causes
        · obtain h | ⟨g', hadd, h⟩ := Except.bind_eq_error.1 h
          · exact (cause_of_add hg h).causes
          · exact hrest (hg.add hadd) h
termination_by structural ss => ss

theorem causes_of_evalEntries {σ : Settings} {path : List Statement}
    {fs : List (String × Statement)} : ∀ (es : List (String × Statement)) {e : GrammarError}, es ⊆ fs →
      evalEntries σ path es = .error e → Causes σ (.mapping fs) e
  | [], e, hs, h => by cases h
  | (k, s) :: es, e, hs, h => by
    rw [evalEntries] at h
    obtain h | ⟨v, -, h⟩ := Except.bind_eq_error.1 h
    · exact (causes_of_eval s h).mono fun _ hp => hp.entry (hs List.mem_cons_self)
    · obtain h | ⟨es', -, h⟩ := Except.bind_eq_error.1 h
      · exact causes_of_evalEntries es (List.subset_of_cons_subset hs) h
      · cases h
termination_by structural es => es

end

theorem causes_of_evaluate (h : evaluate σ t = .error e) : Causes σ t e := causes_of_eval t h

namespace Causes

theorem eq_or (hc : Causes σ t e) : (∃ h g subject, e = .ambiguous h g subject) ∨
    (∃ expected v, e = .mismatch expected v) ∨ ∃ h, e = .unsatisfied h := by
  obtain ⟨s, -, hc⟩ := hc
  cases hc with
  | rivals => exact .inl ⟨_, _, _, rfl⟩
  | leaf | mapping | merge => exact .inr (.inl ⟨_, _, rfl⟩)
  | fail => exact .inr (.inr ⟨_, rfl⟩)

theorem fail_of_unsatisfied {h : Head} (hc : Causes σ t (.unsatisfied h)) :
    ∃ b bs, (clause h b bs).PartOf t ∧ .fail ∈ bs := by
  obtain ⟨s, hs, hc⟩ := hc
  cases hc with
  | fail hb => exact ⟨_, _, hs, hb⟩

theorem rivals_of_ambiguous {h g : Head} {subject : String} (hc : Causes σ t (.ambiguous h g subject)) :
    ∃ ss, (sequence ss).PartOf t ∧ ∃ i j : Nat, i ≠ j ∧ ss[i]?.bind head? = some h ∧
      ss[j]?.bind head? = some g ∧ g.kind = h.kind ∧ h.kind.subject? σ.env = some subject ∧
        h.selectedByName σ.env ∧ g.selectedByName σ.env := by
  obtain ⟨s, hs, hc⟩ := hc
  cases hc with
  | rivals hij hi hj hk hsub hh hg => exact ⟨_, hs, _, _, hij, hi, hj, hk, hsub, hh, hg⟩

theorem clauses_of_mismatch {expected : String} {v : Value} (hv : σ.validator = none)
    (hc : Causes σ t (.mismatch expected v)) :
    ∃ ss, (sequence ss).PartOf t ∧ 2 ≤ ss.length ∧ ∀ s ∈ ss, s.isClause := by
  obtain ⟨s, hs, hc⟩ := hc
  cases hc with
  | leaf hv' | mapping hv' =>
    rw [hv] at hv'
    cases hv'
  | merge hl hc => exact ⟨_, hs, hl, hc⟩

end Causes

end Statement

end Recipe
