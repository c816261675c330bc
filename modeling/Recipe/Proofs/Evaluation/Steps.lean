import Recipe.Evaluation
import Recipe.Proofs.Except

namespace Recipe

theorem Value.eq_unset {v : Value} (h : v.isUnset) : v = .unset := by
  cases v with
  | unset => rfl
  | scalar | sequence | mapping => cases h

theorem Value.mem_contribution {ofClause : Bool} {v w : Value} (h : w ∈ v.contribution ofClause) :
    w = v ∨ ∃ vs, v = .sequence vs ∧ w ∈ vs := by
  cases v with
  | sequence vs =>
    cases ofClause with
    | false => exact .inl (List.mem_singleton.1 h)
    | true => exact .inr ⟨vs, rfl, h⟩
  | unset | scalar | mapping => exact .inl (List.mem_singleton.1 h)

theorem Gathered.add_cases {g g' : Gathered} {asList ofClause : Bool} {v : Value}
    (h : g.add asList ofClause v = .ok g') :
    (∃ vs, (g = .list vs ∨ vs = []) ∧ g' = .list (vs ++ v.contribution ofClause)) ∨
      ∃ es fs, (g = .mapping es ∨ es = []) ∧ v = .mapping fs ∧ g' = .mapping (Entries.union es fs) := by
  cases g with
  | list vs =>
    cases h
    exact .inl ⟨vs, .inl rfl, rfl⟩
  | mapping es =>
    cases v with
    | mapping fs =>
      cases h
      exact .inr ⟨es, fs, .inl rfl, rfl, rfl⟩
    | unset | scalar | sequence => cases h
  | nothing =>
    cases v with
    | mapping fs =>
      cases asList with
      | true =>
        cases h
        exact .inl ⟨[], .inr rfl, rfl⟩
      | false =>
        cases h
        refine .inr ⟨[], fs, .inr rfl, rfl, ?_⟩
        rw [Entries.nil_union]
        rfl
    | unset | scalar | sequence =>
      cases h
      exact .inl ⟨[], .inr rfl, rfl⟩

theorem Gathered.add_eq_error {g : Gathered} {asList ofClause : Bool} {v : Value} {e : GrammarError}
    (h : g.add asList ofClause v = .error e) : (∃ es, g = .mapping es) ∧ e = .mismatch "a mapping" v := by
  cases g with
  | list vs => cases h
  | mapping es =>
    cases v with
    | mapping fs => cases h
    | unset | scalar | sequence =>
      cases h
      exact ⟨⟨es, rfl⟩, rfl⟩
  | nothing => cases v <;> cases h

theorem Settings.validate_eq_error {σ : Settings} {v : Value} {e : GrammarError}
    (h : σ.validate v = .error e) :
    ∃ check r, σ.validator = some check ∧ check v = .error r ∧ e = .mismatch r.expected v := by
  rw [validate] at h
  split at h
  · cases h
  · rename_i check hc
    obtain ⟨r, hr, rfl⟩ := Except.mapError_eq_error.1 h
    exact ⟨check, r, hc, hr, rfl⟩

namespace Statement

open Clause (Head)

def recover (r : Except GrammarError Value) (k : Value → Except GrammarError Value)
    (l : GrammarError → Except GrammarError Value) : Except GrammarError Value :=
  match r with
  | .ok v => k v
  | .error e => if e.isMismatch then l e else .error e

theorem recover_eq_ok {r : Except GrammarError Value} {k : Value → Except GrammarError Value}
    {l : GrammarError → Except GrammarError Value} {v : Value} (h : recover r k l = .ok v) :
    (∃ w, r = .ok w ∧ k w = .ok v) ∨ ∃ e, r = .error e ∧ l e = .ok v := by
  cases r with
  | ok w => exact .inl ⟨w, rfl, h⟩
  | error e =>
    rw [recover] at h
    split at h
    · exact .inr ⟨e, rfl, h⟩
    · cases h

theorem recover_eq_error {r : Except GrammarError Value} {k : Value → Except GrammarError Value}
    {l : GrammarError → Except GrammarError Value} {e : GrammarError} (h : recover r k l = .error e) :
    (∃ v, r = .ok v ∧ k v = .error e) ∨ ∃ e', r = .error e' ∧ (l e' = .error e ∨ e' = e) := by
  cases r with
  | ok v => exact .inl ⟨v, rfl, h⟩
  | error e' =>
    rw [recover] at h
    split at h
    · exact .inr ⟨e', rfl, .inl h⟩
    · exact .inr ⟨e', rfl, .inr (Except.error.inj h)⟩

theorem settle_eq_ok {env : Environment} {s : Statement} {others : List Head} {v w : Value}
    (h : settle env s others v = .ok w) : v = w := by
  rw [settle] at h
  split at h
  · exact Except.ok.inj h
  · split at h
    · exact Except.ok.inj h
    · cases h

theorem settle_eq_error {env : Environment} {s : Statement} {others : List Head} {v : Value}
    {e : GrammarError} (h : settle env s others v = .error e) :
    ∃ k g, s.head? = some k ∧ k.rival? others env = some g ∧
      e = .ambiguous k g ((k.kind.subject? env).getD "") := by
  rw [settle] at h
  split at h
  · cases h
  · rename_i k hk
    split at h
    · cases h
    · rename_i g hg
      exact ⟨k, g, hk, hg, (Except.error.inj h).symm⟩

theorem start_value (ss : List Statement) : (start ss).value = .unset ∨ (start ss).value = .sequence [] := by
  rw [start]
  split
  · exact .inr rfl
  · exact .inl rfl

variable {σ : Settings} {path : List Statement} {siblings : List Head}

theorem eval_leaf {v : Value} (hv : v ≠ .unset) :
    eval σ path siblings (.leaf v) = σ.leaf path v := by
  rw [eval]
  exact hv

theorem eval_clause {h : Head} (hk : h ≠ .attempt) (b : Statement) (bs : List Branch) :
    eval σ path siblings (.clause h b bs) =
      if h.selected siblings σ.env then eval σ (path ++ [.clause h b bs]) [] b
      else evalBranches σ path h bs := by
  rw [eval]
  exact hk

theorem eval_attempt (b : Statement) (bs : List Branch) :
    eval σ path siblings (.clause .attempt b bs) =
      recover (eval σ (path ++ [.clause .attempt b bs]) [] b) .ok
        fun e => evalFallback σ path (some e) bs := by
  rw [eval]
  rfl

theorem evalBranches_body (h : Head) (s : Statement) (bs : List Branch) :
    evalBranches σ path h (.body s :: bs) =
      (eval σ path [] s >>= fun v =>
        if v.isUnset then evalBranches σ path h bs else .ok v) := by
  rw [evalBranches]
  congr 1
  funext v
  cases v <;> rfl

theorem evalFallback_body (last : Option GrammarError) (s : Statement) (bs : List Branch) :
    evalFallback σ path last (.body s :: bs) =
      recover (eval σ path [] s) (fun v => if v.isUnset then evalFallback σ path none bs else .ok v)
        fun e => evalFallback σ path (some e) bs := by
  rw [evalFallback]
  cases eval σ path [] s with
  | error e => rfl
  | ok v => cases v <;> rfl

theorem evalItems_cons_eq_ok {before : List Head} {g : Gathered} {s : Statement} {ss : List Statement}
    {v : Value} (h : evalItems σ path siblings before g (s :: ss) = .ok v) :
    ∃ w, eval σ path siblings s = .ok w ∧
      ((w = .unset ∧ evalItems σ path siblings (before ++ s.head?.toList) g ss = .ok v) ∨
        (g.settles σ.asList w ∧ w = v) ∨
        w.isUnset = false ∧ g.settles σ.asList w = false ∧ ∃ g', g.add σ.asList s.isClause w = .ok g' ∧
          evalItems σ path siblings (before ++ s.head?.toList) g' ss = .ok v) := by
  rw [evalItems] at h
  obtain ⟨w, hw, h⟩ := Except.bind_eq_ok.1 h
  refine ⟨w, hw, ?_⟩
  dsimp only at h
  split at h
  · exact .inl ⟨Value.eq_unset ‹_›, h⟩
  · rename_i hu
    split at h
    · exact .inr (.inl ⟨‹_›, settle_eq_ok h⟩)
    · rename_i hs
      exact .inr (.inr ⟨Bool.eq_false_iff.2 hu, Bool.eq_false_iff.2 hs, Except.bind_eq_ok.1 h⟩)

end Statement

end Recipe
