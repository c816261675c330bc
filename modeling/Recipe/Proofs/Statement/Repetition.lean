import Mathlib
import Recipe.Evaluation
import Recipe.Proofs.Statement.WellFormed

namespace Recipe

open Clause (Head classify isReserved)

def Clause.headsOf (keys : List String) : List Head := keys.filterMap fun k =>
  match classify k with
  | .ok (.clause h) => some h
  | _ => none

/-- The clause comes up again, after others of which exactly one is the same. -/
def Clause.Repeated (h : Head) (hs : List Head) : Prop :=
  ∃ passed rest, hs = passed ++ h :: rest ∧ passed.count h = 1

namespace Clause

variable {h : Head} {hs gs : List Head} {k : String} {keys : List String}

theorem headsOf_cons_clause (hk : classify k = .ok (.clause h)) : headsOf (k :: keys) = h :: headsOf keys := by
  simp only [headsOf, List.filterMap_cons, hk]

theorem headsOf_cons_otherwise (hk : classify k = .ok .otherwise) : headsOf (k :: keys) = headsOf keys := by
  simp only [headsOf, List.filterMap_cons, hk]

theorem headsOf_of_not_reserved (hk : ∀ k ∈ keys, isReserved k = false) : headsOf keys = [] := by
  apply List.filterMap_eq_nil_iff.2
  intro k hm
  have hp : classify k = .ok .plain := by
    by_contra hn
    have hr := (isReserved_iff k).2 hn
    rw [hk k hm] at hr
    cases hr
  simp only [hp]

theorem exists_of_mem_headsOf (hm : h ∈ headsOf keys) : ∃ k ∈ keys, classify k = .ok (.clause h) := by
  obtain ⟨k, hk, hc⟩ := List.mem_filterMap.1 hm
  split at hc
  · cases hc
    exact ⟨k, hk, by assumption⟩
  · cases hc

theorem Repeated.of_prefix (h' : Repeated h hs) (hp : hs <+: gs) : Repeated h gs := by
  obtain ⟨passed, rest, rfl, hc⟩ := h'
  obtain ⟨more, rfl⟩ := hp
  exact ⟨passed, rest ++ more, by simp, hc⟩

end Clause

open Clause (headsOf Repeated)

namespace Value

def opened : Value → List Head
  | .mapping es => headsOf (Entries.keys es)
  | .unset | .scalar _ | .sequence _ => []

def heads : Value → List Head
  | .sequence vs => vs.flatMap opened
  | .mapping es => headsOf (Entries.keys es)
  | .unset | .scalar _ => []

/-- The value is read by itself as a part of another: as an item that holds no clauses, or as what a key
stands for. -/
inductive ReadIn (v : Value) : Value → Prop
  | refl : ReadIn v v
  | item : w ∈ vs → isLiteralItem w → ReadIn v w → ReadIn v (.sequence vs)
  | clause : .mapping es ∈ vs → e ∈ es → ReadIn v e.2 → ReadIn v (.sequence vs)
  | entry : e ∈ es → ReadIn v e.2 → ReadIn v (.mapping es)

def Repeats (v : Value) (h : Head) : Prop := ∃ w, ReadIn w v ∧ Repeated h w.heads

variable {v w : Value} {vs : List Value} {e : String × Value} {es : List (String × Value)} {h : Head}

theorem opened_of_literal (hl : isLiteralItem v) : v.opened = [] := by
  cases v with
  | mapping es =>
    have hr : ∀ e ∈ es, isReserved e.1 = false := by simpa [isLiteralItem, hasReserved] using hl
    exact Clause.headsOf_of_not_reserved (List.forall_mem_map.2 hr)
  | unset | scalar | sequence => rfl

theorem Repeats.mono (hr : v.Repeats h) (hp : ∀ u : Value, u.ReadIn v → u.ReadIn w) : w.Repeats h := by
  obtain ⟨u, hu, hr⟩ := hr
  exact ⟨u, hp u hu, hr⟩

theorem Repeats.item (hv : v ∈ vs) (hl : isLiteralItem v) (hr : v.Repeats h) :
    (Value.sequence vs).Repeats h := hr.mono fun _ => .item hv hl

theorem Repeats.clause (hes : .mapping es ∈ vs) (he : e ∈ es) (hr : e.2.Repeats h) :
    (Value.sequence vs).Repeats h := hr.mono fun _ => .clause hes he

theorem Repeats.entry (he : e ∈ es) (hr : e.2.Repeats h) : (Value.mapping es).Repeats h :=
  hr.mono fun _ => .entry he

end Value

namespace Statement

variable {ss : List Statement} {h : Head}

theorem Items.count_heads (hi : Items ss) (hm : h ∈ heads ss) (ht : h ≠ .attempt) : (heads ss).count h = 1 := by
  have hp : (heads ss).Pairwise fun g g' => g = g' → g = .attempt := by
    apply List.pairwise_filterMap.2
    apply hi.distinct.imp
    intro s t hst g hg g' hg'
    rintro rfl
    by_contra ha
    have hs : s.sameClause t = true := by
      rw [sameClause, hg, hg']
      exact decide_eq_true ⟨rfl, ha⟩
    rw [hst.1] at hs
    cases hs
  have hn : ((heads ss).filter (· ≠ .attempt)).Nodup := by
    rw [List.Nodup, List.pairwise_filter]
    apply hp.imp
    intro g g' hgg hg _ he
    exact of_decide_eq_true hg (hgg he)
  rw [← List.count_filter (p := (· ≠ .attempt)) (by simpa using ht)]
  exact List.count_eq_one_of_mem hn (List.mem_filter.2 ⟨hm, by simpa using ht⟩)

end Statement

namespace Alternation

open Statement (sameClause)

variable {a b : Alternation} {ss : List Statement} {t : Statement} {h : Head} {br : Branch}

def heads (a : Alternation) : List Head :=
  Statement.heads a.statements ++ (a.clause?.map OpenClause.head).toList

theorem heads_of_close (hc : a.close = .ok ss) : Statement.heads ss = a.heads := by
  obtain ⟨ts, c?⟩ := a
  cases c? with
  | none =>
    rw [close_none_eq_ok.1 hc]
    exact (List.append_nil _).symm
  | some c =>
    rw [(close_some_eq_ok.1 hc).2]
    exact List.filterMap_append

theorem heads_of_literal (ht : t.head? = none) (hl : a.literal t = .ok b) : b.heads = a.heads := by
  obtain ⟨ss, hs, rfl⟩ := literal_eq_ok.1 hl
  rw [← heads_of_close hs]
  simp [heads, Statement.heads, ht]

theorem heads_of_clause (hc : a.clause h t = .ok b) : b.heads = a.heads ++ [h] := by
  obtain ⟨ss, hs, rfl⟩ := clause_eq_ok.1 hc
  rw [← heads_of_close hs]
  rfl

theorem heads_of_branch (hb : a.branch br = .ok b) : b.heads = a.heads := by
  obtain ⟨c, hc, rfl⟩ := branch_eq_ok.1 hb
  rw [heads, heads, hc]
  rfl

theorem repeated_of_close (ha : a.WellFormed) (hc : a.close = .error (.duplicate h)) :
    h ≠ .attempt ∧ Repeated h a.heads := by
  obtain ⟨ss, c?⟩ := a
  cases c? with
  | none => cases hc
  | some c =>
    obtain ⟨k, b, bs⟩ := c
    simp only [close] at hc
    split at hc
    · cases hc
    · split at hc
      · rename_i hs
        cases hc
        obtain ⟨s, hm, hs⟩ := List.any_eq_true.1 hs
        have ht : (Statement.clause h b bs).head? = some h := rfl
        rw [sameClause, ht] at hs
        cases hk : s.head? with
        | none =>
          rw [hk] at hs
          cases hs
        | some k =>
          rw [hk] at hs
          obtain ⟨rfl, hn⟩ := of_decide_eq_true hs
          refine ⟨hn, Statement.heads ss, [], rfl, ?_⟩
          exact ha.formed.1.count_heads (List.mem_filterMap.2 ⟨s, hm, hk⟩) hn
      · cases hc

end Alternation

namespace Statement

variable {o : Options}

theorem ReadsClauses.heads_eq {d : Nat} {a b : Alternation} {g g' : Guard} {es : List (String × Value)}
    (h : ReadsClauses o d a g es b g') : b.heads = a.heads ++ headsOf (Entries.keys es) := by
  induction es generalizing a g with
  | nil =>
    cases h
    exact (List.append_nil _).symm
  | cons e es ih =>
    cases h with
    | clause hk _ _ _ hc h =>
      rw [ih h, Alternation.heads_of_clause hc, Entries.keys_cons, Clause.headsOf_cons_clause hk,
        List.append_assoc, List.singleton_append]
    | fail hk _ hb h | body hk _ _ hb h =>
      rw [ih h, Alternation.heads_of_branch hb, Entries.keys_cons, Clause.headsOf_cons_otherwise hk]

theorem ReadsItems.heads_eq {d : Nat} {a b : Alternation} {g g' : Guard} {vs : List Value}
    (h : ReadsItems o d a g vs b g') : b.heads = a.heads ++ vs.flatMap Value.opened := by
  induction vs generalizing a g with
  | nil =>
    cases h
    exact (List.append_nil _).symm
  | cons v vs ih =>
    cases h with
    | fail _ hb h =>
      rw [ih h, Alternation.heads_of_branch hb]
      rfl
    | literal hl hs hb h =>
      rw [ih h, Alternation.heads_of_literal (hs.literal_item hl).1 hb, List.flatMap_cons,
        Value.opened_of_literal hl, List.nil_append]
    | clauses _ hes h =>
      rw [ih h, hes.heads_eq, List.flatMap_cons, List.append_assoc]
      rfl

end Statement

end Recipe
