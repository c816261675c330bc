import Mathlib
import Recipe.Proofs.Evaluation.Insertion
import Recipe.Proofs.Statement.WellFormed

namespace Recipe

open Clause (Head Kind)

theorem Selectors.eq_of_isOther {ss ts : Selectors} (hs : ss.isOther) (ht : ts.isOther) : ss = ts := by
  obtain ⟨ss, _⟩ := ss
  obtain ⟨ts, _⟩ := ts
  rw [isOther, beq_iff_eq] at hs ht
  dsimp only at hs ht
  subst hs ht
  rfl

namespace Clause.Head

variable {env : Environment} {h g : Head} {hs hs' : List Head}

theorem eq_of_selectors {ss : Selectors} (hk : h.kind = g.kind) (hh : h.selectors? = some ss)
    (hg : g.selectors? = some ss) : h = g := by
  cases h <;> cases g <;> simp_all [kind, selectors?]

theorem eq_of_isOther (hk : h.kind = g.kind) (hh : h.isOther) (hg : g.isOther) : h = g := by
  obtain ⟨ss, hss, ho⟩ := (Option.any_eq_true ..).1 hh
  obtain ⟨ts, hts, go⟩ := (Option.any_eq_true ..).1 hg
  obtain rfl := Selectors.eq_of_isOther ho go
  exact eq_of_selectors hk hss hts

theorem ne_attempt_of_compared (hc : h.compared) : h ≠ .attempt := by
  rintro rfl
  cases hc

theorem same_self (hc : h.compared) : h.same h := by
  simp [same, ne_attempt_of_compared hc]

theorem selected_eq (hc : h.compared) (hs : List Head) :
    h.selected hs env =
      if h.isOther then !(byName env hs).any (fun g => g.kind = h.kind) else h.named env := by
  cases h with
  | host ss | target ss | platform ss =>
    have ha : ss.hasAny = false := by simpa [compared, selectors?] using hc
    simp only [selected, Selectors.selects, Kind.subject?]
    rw [any_claims_eq rfl, ha]
    rfl
  | hostTarget | attempt => cases hc

theorem named_of_selected (hk : h.kind = g.kind) (hne : h ≠ g) (hh : h.compared) (hg : g.compared)
    (hm : g ∈ hs) (hsel : h.selected hs env) (gsel : g.selected hs env) : h.named env := by
  rw [selected_eq hh] at hsel
  split at hsel
  · -- `h` is for `other`, and so `g` would have to be
    rename_i ho
    exfalso
    rw [selected_eq hg] at gsel
    split at gsel
    · rename_i go
      exact hne (eq_of_isOther hk ho go)
    · rw [Bool.not_eq_true', List.any_eq_false] at hsel
      apply hsel g
      · rw [byName, List.mem_filter, selectedByName_eq, hg, gsel]
        exact ⟨hm, rfl⟩
      · exact decide_eq_true hk.symm
  · exact hsel

theorem rival?_of_not_named (hn : h.named env = false) : h.rival? hs env = none := by
  rw [rival?, selectedByName_eq, hn, Bool.and_false]
  rfl

end Clause.Head

namespace Statement

variable {σ : Settings} {path : List Statement} {siblings : List Head} {k : Kind} {ss ts : List Statement}
  {s t : Statement} {h : Head} {b : Statement} {v : Scalar}

def bodyValue (σ : Settings) (path : List Statement) : Statement → Except GrammarError Value
  | .clause h b bs => eval σ (path ++ [.clause h b bs]) [] b
  | .leaf _ | .sequence _ | .mapping _ => .ok .unset

def names (env : Environment) (s : Statement) : Bool := s.head?.any (Head.named env)

/-- A clause of kind `k` with one selector set that has no `any`, without branches, whose body yields a
scalar or nothing. -/
structure SingleValued (σ : Settings) (path : List Statement) (k : Kind) (s : Statement) : Prop where
  clause : ∃ h b, s = .clause h b [] ∧ h.kind = k ∧ h.compared
  value : bodyValue σ path s = .ok .unset ∨ ∃ v, bodyValue σ path s = .ok (.scalar v)

structure Candidates (σ : Settings) (path : List Statement) (k : Kind) (ss : List Statement) : Prop where
  single : ∀ s ∈ ss, SingleValued σ path k s
  distinct : ss.Pairwise fun s t => s.sameClause t = false

/-- Two of the clauses name the environment, and one of the two yields a scalar. -/
def Contested (σ : Settings) (path ss : List Statement) : Prop :=
  ∃ s ∈ ss, ∃ t ∈ ss, s ≠ t ∧ s.names σ.env ∧ t.names σ.env ∧
    ∃ v, bodyValue σ path s = .ok (.scalar v)

def Ambiguous (k : Kind) (subject : String) (r : Except GrammarError Value) : Prop :=
  ∃ h g, h.kind = k ∧ r = .error (.ambiguous h g subject)

theorem Contested.perm (hp : ss.Perm ts) (hc : Contested σ path ss) : Contested σ path ts := by
  obtain ⟨s, hs, t, ht, hc⟩ := hc
  exact ⟨s, hp.subset hs, t, hp.subset ht, hc⟩

theorem eval_of_no_branches (hk : h ≠ .attempt) : eval σ path siblings (.clause h b []) =
    if h.selected siblings σ.env then bodyValue σ path (.clause h b []) else .ok .unset := by
  rw [eval_clause hk]
  rfl

theorem exists_first {r : Statement → Except GrammarError Value}
    (hr : ∀ s ∈ ss, r s = .ok .unset ∨ ∃ v, r s = .ok (.scalar v)) :
    (∀ s ∈ ss, r s = .ok .unset) ∨ ∃ pre s post v, ss = pre ++ s :: post ∧
      (∀ t ∈ pre, r t = .ok .unset) ∧ r s = .ok (.scalar v) := by
  induction ss with
  | nil => exact .inl (by simp)
  | cons s ss ih =>
    obtain ⟨hs, hss⟩ := List.forall_mem_cons.1 hr
    obtain hs | ⟨v, hv⟩ := hs
    · obtain hu | ⟨pre, t, post, v, rfl, hp, hv⟩ := ih hss
      · exact .inl (List.forall_mem_cons.2 ⟨hs, hu⟩)
      · exact .inr ⟨s :: pre, t, post, v, rfl, List.forall_mem_cons.2 ⟨hs, hp⟩, hv⟩
    · exact .inr ⟨[], s, ss, v, rfl, by simp, hv⟩

theorem eval_of_unset (hu : ∀ s ∈ ss, eval σ path (heads ss) s = .ok .unset) :
    eval σ path siblings (.sequence ss) = .ok (start ss).value := by
  have he : evalItems σ path (heads ss) [] (start ss) (ss ++ []) = .ok (start ss).value := by
    rw [evalItems_of_unset hu, evalItems]
  rw [List.append_nil] at he
  rw [eval, he]

theorem start_perm (hp : ss.Perm ts) : start ss = start ts := by
  rw [start, start, hp.isEmpty_eq, hp.all_eq]

theorem eval_perm_siblings (hp : ss.Perm ts) (s : Statement) :
    eval σ path (heads ss) s = eval σ path (heads ts) s := by
  apply eval_congr_siblings
  intro h _
  exact h.selected_perm (hp.filterMap _)

namespace Candidates

variable (hc : Candidates σ path k ss)
include hc

theorem perm (hp : ss.Perm ts) : Candidates σ path k ts where
  single s hs := hc.single s (hp.mem_iff.2 hs)
  distinct := (hp.pairwise_iff fun {s t} h => by rwa [sameClause_comm]).1 hc.distinct

theorem isClause : ∀ s ∈ ss, s.isClause := by
  intro s hs
  obtain ⟨h, b, rfl, -⟩ := (hc.single s hs).clause
  rfl

theorem eval_eq_or (siblings : List Head) : ∀ s ∈ ss,
    eval σ path siblings s = .ok .unset ∨ ∃ v, eval σ path siblings s = .ok (.scalar v) := by
  intro s hs
  obtain ⟨⟨h, b, rfl, -, hh⟩, hb⟩ := hc.single s hs
  rw [eval_of_no_branches (Head.ne_attempt_of_compared hh)]
  split
  · exact hb
  · exact .inl rfl

theorem eval_of_names (siblings : List Head) (hs : s ∈ ss) (hn : s.names σ.env) :
    eval σ path siblings s = bodyValue σ path s := by
  obtain ⟨h, b, rfl, -, hh⟩ := (hc.single s hs).clause
  rw [eval_of_no_branches (Head.ne_attempt_of_compared hh), if_pos (Head.selected_of_named hn)]

theorem of_eval (hs : s ∈ ss) (hv : eval σ path siblings s = .ok (.scalar v)) :
    (∀ h ∈ s.head?, h.selected siblings σ.env) ∧ bodyValue σ path s = .ok (.scalar v) := by
  obtain ⟨h, b, rfl, -, hh⟩ := (hc.single s hs).clause
  rw [eval_of_no_branches (Head.ne_attempt_of_compared hh)] at hv
  split at hv
  · rename_i hsel
    refine ⟨?_, hv⟩
    rintro _ ⟨⟩
    exact hsel
  · cases hv

theorem sameClause_eq_false (hs : s ∈ ss) (ht : t ∈ ss) (hne : s ≠ t) : s.sameClause t = false := by
  have : Std.Symm fun s t : Statement => s.sameClause t = false :=
    ⟨fun s t h => by rwa [sameClause_comm]⟩
  exact hc.distinct.forall hs ht hne

theorem ne_of_sameClause (hs : s ∈ ss) (hf : s.sameClause t = false) : s ≠ t := by
  rintro rfl
  obtain ⟨h, b, rfl, -, hh⟩ := (hc.single s hs).clause
  change h.same h = false at hf
  rw [Head.same_self hh] at hf
  cases hf

theorem names_of_eval (hs : s ∈ ss) (ht : t ∈ ss) (hne : s ≠ t) {w : Scalar}
    (hv : eval σ path (heads ss) s = .ok (.scalar v)) (hw : eval σ path (heads ss) t = .ok (.scalar w)) :
    s.names σ.env := by
  have hsel := (hc.of_eval hs hv).1
  have gsel := (hc.of_eval ht hw).1
  have hf := hc.sameClause_eq_false hs ht hne
  obtain ⟨h, b, rfl, hk, hh⟩ := (hc.single s hs).clause
  obtain ⟨g, c, rfl, gk, hg⟩ := (hc.single t ht).clause
  have hm : g ∈ heads ss := List.mem_filterMap.2 ⟨_, ht, rfl⟩
  refine Head.named_of_selected (hk.trans gk.symm) ?_ hh hg hm (hsel h rfl) (gsel g rfl)
  rintro rfl
  change h.same h = false at hf
  rw [Head.same_self hh] at hf
  cases hf

section First

variable {pre post : List Statement} (hss : ss = pre ++ .clause h b [] :: post)
include hss

theorem exists_rival_iff : (∃ g ∈ heads pre ++ heads post, h.Rival σ.env g) ↔
    ∃ t ∈ ss, .clause h b [] ≠ t ∧ t.names σ.env := by
  have hm : .clause h b [] ∈ ss := by simp [hss]
  rw [← heads_append]
  constructor
  · rintro ⟨g, hg, -, hn, -, -⟩
    obtain ⟨t, ht, htg⟩ := List.mem_filterMap.1 hg
    have hd := hc.distinct
    rw [hss, List.pairwise_middle fun {s t} h => by rwa [sameClause_comm], List.pairwise_cons] at hd
    have hts : t ∈ ss := hss ▸ ((List.sublist_cons_self _ post).append_left pre).subset ht
    exact ⟨t, hts, hc.ne_of_sameClause hm (hd.1 t ht), by rwa [names, htg]⟩
  · rintro ⟨t, ht, hne, hn⟩
    obtain ⟨_, _, ⟨⟩, hk, hh⟩ := (hc.single _ hm).clause
    obtain ⟨g, c, rfl, gk, hg⟩ := (hc.single t ht).clause
    have htm : .clause g c [] ∈ pre ++ post := by
      rw [hss, List.mem_append, List.mem_cons] at ht
      rw [List.mem_append]
      exact ht.imp_right (Or.resolve_left · hne.symm)
    exact ⟨g, List.mem_filterMap.2 ⟨_, htm, rfl⟩, gk.trans hk.symm, hn, hh, hg⟩

variable (hv : eval σ path (heads ss) (.clause h b []) = .ok (.scalar v))
include hv

theorem contested_iff : Contested σ path ss ↔
    h.named σ.env ∧ ∃ t ∈ ss, .clause h b [] ≠ t ∧ t.names σ.env := by
  have hm : .clause h b [] ∈ ss := by simp [hss]
  constructor
  · rintro ⟨s, hs, t, ht, hne, sn, tn, w, hw⟩
    rw [← hc.eval_of_names (heads ss) hs sn] at hw
    by_cases he : .clause h b [] = s
    · subst he
      exact ⟨sn, t, ht, hne, tn⟩
    · exact ⟨hc.names_of_eval hm hs he hv hw, s, hs, he, sn⟩
  · rintro ⟨hn, t, ht, hne, tn⟩
    exact ⟨_, hm, t, ht, hne, hn, tn, v, (hc.of_eval hm hv).2⟩

theorem rival?_eq_none_iff :
    h.rival? (heads pre ++ heads post) σ.env = none ↔ ¬ Contested σ path ss := by
  rw [hc.contested_iff hss hv, ← hc.exists_rival_iff hss]
  cases hn : h.named σ.env with
  | true => simp [Head.rival?_eq_none hn]
  | false => simp [Head.rival?_of_not_named hn]

end First

theorem eval_of_contested (siblings : List Head) (hl : σ.shape ≠ some .list) (ht : Contested σ path ss) :
    ∃ subject, k.subject? σ.env = some subject ∧
      Ambiguous k subject (eval σ path siblings (.sequence ss)) := by
  obtain hu | ⟨pre, s, post, v, hss, hp, hv⟩ := exists_first (hc.eval_eq_or (heads ss))
  · obtain ⟨s, hs, t, -, -, hn, -, v, hv⟩ := ht
    rw [← hc.eval_of_names (heads ss) hs hn, hu s hs] at hv
    cases hv
  · obtain ⟨h, b, rfl, rfl, hh⟩ := (hc.single s (by simp [hss])).clause
    obtain ⟨subject, hsub⟩ := Head.exists_subject? σ.env hh
    refine ⟨subject, hsub, h, ?_⟩
    rw [eval_of_first hl hc.isClause hss hp hv, settle_clause, hsub]
    cases hr : h.rival? (heads pre ++ heads post) σ.env with
    | none => exact absurd ht ((hc.rival?_eq_none_iff hss hv).1 hr)
    | some g => exact ⟨g, rfl, rfl⟩

theorem eval_of_uncontested (hl : σ.shape ≠ some .list) (hn : ¬ Contested σ path ss) (hs : s ∈ ss)
    (hv : eval σ path (heads ss) s = .ok (.scalar v)) :
    eval σ path siblings (.sequence ss) = .ok (.scalar v) := by
  obtain hu | ⟨pre, t, post, w, hss, hp, hw⟩ := exists_first (hc.eval_eq_or (heads ss))
  · rw [hu s hs] at hv
    cases hv
  · have ht : t ∈ ss := by simp [hss]
    obtain rfl : s = t := by
      by_contra hne
      exact hn ⟨s, hs, t, ht, hne, hc.names_of_eval hs ht hne hv hw,
        hc.names_of_eval ht hs (Ne.symm hne) hw hv, v, (hc.of_eval hs hv).2⟩
    obtain ⟨h, b, rfl, -, -⟩ := (hc.single s ht).clause
    rw [eval_of_first hl hc.isClause hss hp hv, settle_clause, (hc.rival?_eq_none_iff hss hv).2 hn]

theorem eval_perm_of_uncontested (siblings : List Head) (hl : σ.shape ≠ some .list)
    (hn : ¬ Contested σ path ss) (hp : ss.Perm ts) :
    ∃ v, eval σ path siblings (.sequence ss) = .ok v ∧ eval σ path siblings (.sequence ts) = .ok v := by
  obtain hu | ⟨pre, s, post, v, hss, -, hv⟩ := exists_first (hc.eval_eq_or (heads ss))
  · have hu' : ∀ s ∈ ts, eval σ path (heads ts) s = .ok .unset := by
      intro s hs
      rw [← eval_perm_siblings hp s, hu s (hp.mem_iff.2 hs)]
    refine ⟨_, eval_of_unset hu, ?_⟩
    rw [eval_of_unset hu', start_perm hp]
  · have hs : s ∈ ss := by simp [hss]
    have hn' : ¬ Contested σ path ts := fun h => hn (h.perm hp.symm)
    refine ⟨_, hc.eval_of_uncontested hl hn hs hv, ?_⟩
    rw [eval_perm_siblings hp s] at hv
    exact (hc.perm hp).eval_of_uncontested hl hn' (hp.mem_iff.1 hs) hv

end Candidates

/-- The order of clauses that yield single values decides neither the value nor whether there is one. They
are ambiguous exactly where two of them name the environment and one of the two has a value. -/
theorem eval_perm (siblings : List Head) (hl : σ.shape ≠ some .list) (hc : Candidates σ path k ss)
    (hp : ss.Perm ts) :
    ((∃ v, eval σ path siblings (.sequence ss) = .ok v ∧ eval σ path siblings (.sequence ts) = .ok v) ∨
      ∃ subject, k.subject? σ.env = some subject ∧
        Ambiguous k subject (eval σ path siblings (.sequence ss)) ∧
        Ambiguous k subject (eval σ path siblings (.sequence ts))) ∧
    ((∃ h g subject, eval σ path siblings (.sequence ss) = .error (.ambiguous h g subject)) ↔
      Contested σ path ss) := by
  by_cases ht : Contested σ path ss
  · obtain ⟨subject, hk, ha⟩ := hc.eval_of_contested siblings hl ht
    obtain ⟨_, hk', ha'⟩ := (hc.perm hp).eval_of_contested siblings hl (ht.perm hp)
    obtain rfl := Option.some.inj (hk.symm.trans hk')
    refine ⟨.inr ⟨subject, hk, ha, ha'⟩, fun _ => ht, fun _ => ?_⟩
    obtain ⟨h, g, -, he⟩ := ha
    exact ⟨h, g, subject, he⟩
  · obtain ⟨v, hv, hv'⟩ := hc.eval_perm_of_uncontested siblings hl ht hp
    refine ⟨.inl ⟨v, hv, hv'⟩, ?_, fun h => absurd h ht⟩
    rintro ⟨_, _, _, he⟩
    rw [hv] at he
    cases he

theorem bodyValue_clause (ht : σ.transformer = none) (h : Head) (b : Statement) (bs : List Branch) :
    bodyValue σ path (.clause h b bs) = evaluate σ b := eval_path ht ..

def hosts : List Statement :=
  [.clause (.host (.ofList ["other"])) (.leaf (.string "c")) [],
    .clause (.host (.ofList ["amd64"])) (.leaf .unset) [],
    .clause (.host (.ofList ["amd64", "i386"])) (.leaf (.string "a")) []]

theorem candidates_hosts (env : Environment) : Candidates ⟨env, none, none, none⟩ [] .host hosts where
  single := by
    simp only [hosts, List.forall_mem_cons]
    refine ⟨⟨⟨_, _, rfl, rfl, rfl⟩, .inr ⟨_, bodyValue_clause rfl ..⟩⟩,
      ⟨⟨_, _, rfl, rfl, rfl⟩, .inl (bodyValue_clause rfl ..)⟩,
      ⟨⟨_, _, rfl, rfl, rfl⟩, .inr ⟨_, bodyValue_clause rfl ..⟩⟩, by simp⟩
  distinct := by decide

theorem eval_perm_hosts :
    hosts.Perm hosts.reverse ∧
    Contested ⟨.native "amd64", none, none, none⟩ [] hosts ∧
    Ambiguous .host "amd64" (evaluate ⟨.native "amd64", none, none, none⟩ (.sequence hosts.reverse)) ∧
    evaluate ⟨.native "i386", none, none, none⟩ (.sequence hosts.reverse) = .ok (.string "a") ∧
    evaluate ⟨.native "arm64", none, none, none⟩ (.sequence hosts.reverse) = .ok (.string "c") := by
  have hp : hosts.Perm hosts.reverse := (List.reverse_perm hosts).symm
  have hperm (env : Environment) := eval_perm [] (by simp) (candidates_hosts env) hp
  have hok {env : Environment} {v : Value}
      (hv : evaluate ⟨env, none, none, none⟩ (.sequence hosts) = .ok v) :
      evaluate ⟨env, none, none, none⟩ (.sequence hosts.reverse) = .ok v := by
    obtain ⟨w, hw, hw'⟩ | ⟨_, -, ⟨_, _, -, he⟩, -⟩ := (hperm env).1
    · exact hw'.trans (hw.symm.trans hv)
    · cases hv.symm.trans he
  have herr : ∃ h g, evaluate ⟨.native "amd64", none, none, none⟩ (.sequence hosts) =
      .error (.ambiguous h g "amd64") := ⟨_, _, by cbv⟩
  obtain ⟨h, g, he⟩ := herr
  refine ⟨hp, (hperm _).2.1 ⟨h, g, _, he⟩, ?_, hok (by cbv), hok (by cbv)⟩
  obtain ⟨v, hv, -⟩ | ⟨_, ⟨⟩, -, ha⟩ := (hperm (.native "amd64")).1
  · cases hv.symm.trans he
  · exact ha

end Statement

end Recipe
