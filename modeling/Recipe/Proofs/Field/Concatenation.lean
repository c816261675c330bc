import Mathlib
import Recipe.Field
import Recipe.Proofs.Evaluation.Siblings

namespace Recipe

open Clause (Head)

def Value.items : Value → List Value
  | .unset => []
  | .sequence vs => vs
  | v => [v]

namespace Gathered

def isList (g : Gathered) : Bool := !g matches .mapping _

theorem settles_asList (g : Gathered) (v : Value) : g.settles true v = false := by
  cases g with
  | nothing => rw [settles, Bool.not_true, Bool.and_false]
  | list | mapping => rfl

theorem add_asList {g : Gathered} (hg : g.isList) (ofClause : Bool) (v : Value) :
    g.add true ofClause v = .ok (.list (g.value.items ++ v.contribution ofClause)) := by
  cases g with
  | list vs => rfl
  | nothing => cases v <;> rfl
  | mapping es => cases hg

end Gathered

namespace Statement

variable {σ : Settings} {ss : List Statement}

def isOther (s : Statement) : Bool := s.head?.any Head.isOther

theorem start_isList (ss : List Statement) : (start ss).isList := by
  rw [start]
  split <;> rfl

theorem items_start (ss : List Statement) : (start ss).value.items = [] := by
  rw [start]
  split <;> rfl

theorem eval_of_isOther {s : Statement} (hs : s.isOther = false) (path : List Statement)
    (siblings : List Head) : eval σ path siblings s = eval σ path [] s := by
  apply eval_alone
  intro h hh ho
  rw [isOther, Option.mem_def.1 hh, Option.any_some, ho] at hs
  cases hs

def added (s : Statement) (v : Value) : List Value :=
  if v.isUnset then [] else v.contribution s.isClause

/-- What each of the statements adds to a list, none of them beside another. -/
def contributions (σ : Settings) : List Statement → Except GrammarError (List Value)
  | [] => return []
  | s :: ss => do
    let v ← s.evaluate σ
    return s.added v ++ (← contributions σ ss)

theorem contributions_append (σ : Settings) (ss ts : List Statement) :
    contributions σ (ss ++ ts) = (do
      let vs ← contributions σ ss
      let ws ← contributions σ ts
      return vs ++ ws) := by
  induction ss with
  | nil => simp only [List.nil_append, contributions, pure_bind, bind_pure]
  | cons s ss ih =>
    simp only [List.cons_append, contributions, ih, bind_assoc, pure_bind, List.append_assoc]

theorem items_evalItems (hl : σ.asList) (hs : ∀ s ∈ ss, s.isOther = false) {g : Gathered}
    (hg : g.isList) (siblings before : List Head) :
    Value.items <$> evalItems σ [] siblings before g ss =
      (g.value.items ++ ·) <$> contributions σ ss := by
  induction ss generalizing before g with
  | nil => rw [contributions, map_pure, List.append_nil]; rfl
  | cons s ss ih =>
    rw [List.forall_mem_cons] at hs
    rw [evalItems, eval_of_isOther hs.1, contributions, evaluate, hl]
    cases eval σ [] [] s with
    | error e => rfl
    | ok v =>
      rw [Except.ok_bind, Except.ok_bind, added]
      dsimp only
      split
      · simp only [ih hs.2 hg, List.nil_append, bind_pure]
      · rw [Gathered.settles_asList, if_neg Bool.false_ne_true, Gathered.add_asList hg, Except.ok_bind,
          ih hs.2 rfl]
        change (g.value.items ++ v.contribution s.isClause ++ ·) <$> contributions σ ss = _
        simp only [map_eq_pure_bind, bind_assoc, pure_bind, List.append_assoc]

end Statement

namespace FieldSpec

variable {f : FieldSpec}

theorem normalize_list (hs : f.shape = .list) (hr : f.required = false) (v : Value) :
    f.normalize v = .ok (.sequence v.items) := by
  obtain ⟨name, shape, leaf, required⟩ := f
  cases hs
  cases hr
  cases v <;> simp [normalize, Value.items]

theorem resolve_eq_contributions (hs : f.shape = .list) (hr : f.required = false) (env : Environment)
    {ss : List Statement} (ho : ∀ s ∈ ss, s.isOther = false) :
    f.resolve env (.sequence ss) = .sequence <$> Statement.contributions (f.settings env) ss := by
  have hl : (f.settings env).asList := by rw [settings, hs]; rfl
  have hi := Statement.items_evalItems hl ho (Statement.start_isList ss) (Statement.heads ss) []
  simp only [Statement.items_start, List.nil_append, id_map'] at hi
  rw [resolve, Statement.evaluate, Statement.eval, ← hi]
  simp only [normalize_list hs hr, map_eq_pure_bind, bind_assoc, pure_bind]
  rfl

/-- An optional list field of statements in a row is that of the first ones followed by that of the rest,
and fails at the first error of either. It consists of what each statement contributes by itself. -/
theorem resolve_append (hs : f.shape = .list) (hr : f.required = false) (env : Environment)
    {ss ts : List Statement} (hss : ∀ s ∈ ss, s.isOther = false) (hts : ∀ t ∈ ts, t.isOther = false) :
    f.resolve env (.sequence (ss ++ ts)) = (do
      let v ← f.resolve env (.sequence ss)
      let w ← f.resolve env (.sequence ts)
      return .sequence (v.items ++ w.items)) ∧
    f.resolve env (.sequence ss) = .sequence <$> Statement.contributions (f.settings env) ss ∧
    f.resolve env (.sequence ts) = .sequence <$> Statement.contributions (f.settings env) ts := by
  have hs' := resolve_eq_contributions hs hr env hss
  have ht' := resolve_eq_contributions hs hr env hts
  refine ⟨?_, hs', ht'⟩
  rw [hs', ht', resolve_eq_contributions hs hr env (List.forall_mem_append.2 ⟨hss, hts⟩),
    Statement.contributions_append]
  simp only [map_eq_pure_bind, bind_assoc, pure_bind, Value.items]

def packages : FieldSpec := { name := "build-packages", shape := .list, leaf := .string }

def compilers : List Statement :=
  [.clause (.host (.ofList ["amd64"])) (.leaf (.string "gcc")) [],
    .clause .attempt (.leaf (.bool true)) [.body (.leaf (.string "cc"))]]

def builders : List Statement :=
  [.leaf (.string "make"),
    .clause (.host (.ofList ["amd64", "arm64"])) (.sequence [.leaf (.string "g++")]) []]

theorem resolve_append_packages :
    (∀ s ∈ compilers, s.isOther = false) ∧ (∀ s ∈ builders, s.isOther = false) ∧
      packages.resolve (.native "amd64") (.sequence compilers) =
        .ok (.sequence [.string "gcc", .string "cc"]) ∧
      packages.resolve (.native "amd64") (.sequence builders) =
        .ok (.sequence [.string "make", .string "g++"]) ∧
      packages.resolve (.native "amd64") (.sequence (compilers ++ builders)) =
        .ok (.sequence [.string "gcc", .string "cc", .string "make", .string "g++"]) := by
  have hc : ∀ s ∈ compilers, s.isOther = false := by decide
  have hb : ∀ s ∈ builders, s.isOther = false := by decide
  have hcr : packages.resolve (.native "amd64") (.sequence compilers) =
      .ok (.sequence [.string "gcc", .string "cc"]) := by cbv
  have hbr : packages.resolve (.native "amd64") (.sequence builders) =
      .ok (.sequence [.string "make", .string "g++"]) := by cbv
  refine ⟨hc, hb, hcr, hbr, ?_⟩
  rw [(resolve_append rfl rfl _ hc hb).1, hcr, hbr]
  rfl

end FieldSpec

end Recipe
