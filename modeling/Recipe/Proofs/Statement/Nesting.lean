import Recipe.Proofs.Statement.Grammar

namespace Recipe

open Clause (Head)

namespace Value

variable {n : Nat}

theorem nestingList_le_iff {vs : List Value} : nestingList vs ≤ n ↔ ∀ v ∈ vs, v.nesting < n := by
  induction vs with
  | nil => simp [nestingList]
  | cons v vs ih => rw [nestingList, Nat.max_le, ih, List.forall_mem_cons, Nat.add_one_le_iff]

theorem nestingEntries_le_iff {es : List (String × Value)} :
    nestingEntries es ≤ n ↔ ∀ e ∈ es, e.2.nesting < n := by
  induction es with
  | nil => simp [nestingEntries]
  | cons e es ih => rw [nestingEntries, Nat.max_le, ih, List.forall_mem_cons, Nat.add_one_le_iff]

end Value

namespace Statement

mutual

/-- Levels of containers in a tree. A clause stands for a value of its body or of a branch, and is no level
by itself. -/
def nesting : Statement → Nat
  | .leaf v => v.nesting
  | .clause _ b bs => max b.nesting (nestingBranches bs)
  | .sequence ss => nestingList ss
  | .mapping es => nestingEntries es

def nestingBranches : List Branch → Nat
  | [] => 0
  | .fail :: bs => nestingBranches bs
  | .body s :: bs => max s.nesting (nestingBranches bs)

def nestingList : List Statement → Nat
  | [] => 0
  | s :: ss => max (s.nesting + 1) (nestingList ss)

def nestingEntries : List (String × Statement) → Nat
  | [] => 0
  | (_, s) :: es => max (s.nesting + 1) (nestingEntries es)

end

theorem nestingList_append (ss ts : List Statement) :
    nestingList (ss ++ ts) = max (nestingList ss) (nestingList ts) := by
  induction ss with
  | nil => simp [nestingList]
  | cons s ss ih => rw [List.cons_append, nestingList, ih, nestingList, Nat.max_assoc]

theorem nestingList_singleton (s : Statement) : nestingList [s] = s.nesting + 1 := Nat.max_zero _

theorem nestingBranches_append (bs cs : List Branch) :
    nestingBranches (bs ++ cs) = max (nestingBranches bs) (nestingBranches cs) := by
  induction bs with
  | nil => simp [nestingBranches]
  | cons b bs ih => cases b <;> simp only [List.cons_append, nestingBranches, ih, Nat.max_assoc]

end Statement

namespace Alternation

open Statement (nestingList nestingList_append nestingList_singleton nestingBranches)

variable {a b : Alternation} {ss : List Statement} {t : Statement}

def nesting (a : Alternation) : Nat :=
  nestingList (a.statements ++ a.clause?.toList.map OpenClause.statement)

theorem nesting_of_close (h : a.close = .ok ss) : nestingList ss = a.nesting := by
  obtain ⟨ts, c?⟩ := a
  cases c? with
  | none =>
    rw [close_none_eq_ok.1 h]
    simp [nesting]
  | some c =>
    rw [(close_some_eq_ok.1 h).2]
    rfl

theorem nestingList_le_of_close {n : Nat} (h : a.close = .ok ss) (ha : a.nesting ≤ max empty.nesting n) :
    nestingList ss ≤ n := by
  have he : empty.nesting = 0 := rfl
  rwa [he, Nat.zero_max, ← nesting_of_close h] at ha

theorem nesting_of_literal (h : a.literal t = .ok b) : b.nesting = max a.nesting (t.nesting + 1) := by
  obtain ⟨ss, hc, rfl⟩ := literal_eq_ok.1 h
  rw [← nesting_of_close hc, ← nestingList_singleton, ← nestingList_append]
  simp [nesting]

theorem nesting_of_clause {h : Head} (hc : a.clause h t = .ok b) :
    b.nesting = max a.nesting (t.nesting + 1) := by
  obtain ⟨ss, hs, rfl⟩ := clause_eq_ok.1 hc
  rw [← nesting_of_close hs, nesting, nestingList_append]
  simp [OpenClause.statement, Statement.nesting, nestingBranches, nestingList]

theorem nesting_of_branch {br : Branch} (h : a.branch br = .ok b) :
    b.nesting = max a.nesting (nestingBranches [br] + 1) := by
  obtain ⟨c, hc, rfl⟩ := branch_eq_ok.1 h
  simp only [nesting, hc, nestingList_append, Option.toList_some, List.map_singleton,
    nestingList_singleton, OpenClause.statement, Statement.nesting, Statement.nestingBranches_append]
  omega

end Alternation

namespace Statement

open Alternation

variable {o : Options}

mutual

theorem Reads.nesting_tree_le {d : Nat} {g : Guard} {v : Value} {t : Statement} {g' : Guard} :
    Reads o d g v t g' → t.nesting ≤ v.nesting
  | .unset _ | .scalar _ | .literal .. => Nat.le_refl _
  | .sequence _ hi hc => nestingList_le_of_close hc hi.nesting_tree_le
  | .single _ _ hi hc => by
    have h := nestingList_le_of_close hc hi.nesting_tree_le
    rw [nestingList_singleton] at h
    exact Nat.le_of_succ_le h
  | .clauses _ _ hi hc _ => nestingList_le_of_close hc hi.nesting_tree_le
  | .mapping _ _ hi _ => hi.nesting_tree_le

theorem ReadsItems.nesting_tree_le {d : Nat} {a : Alternation} {g : Guard} {vs : List Value}
    {b : Alternation} {g' : Guard} : ReadsItems o d a g vs b g' →
      b.nesting ≤ max a.nesting (Value.nestingList vs)
  | .nil => Nat.le_max_left ..
  | .fail _ hb hi => by
    have h := hi.nesting_tree_le
    rw [nesting_of_branch hb, nestingBranches, nestingBranches] at h
    rw [Value.nestingList]
    omega
  | .literal _ ht hl hi => by
    have ht := ht.nesting_tree_le
    have h := hi.nesting_tree_le
    rw [nesting_of_literal hl] at h
    rw [Value.nestingList]
    omega
  | .clauses _ hc hi => by
    have hc := hc.nesting_tree_le
    have h := hi.nesting_tree_le
    rw [Value.nestingList, Value.nesting]
    omega

theorem ReadsClauses.nesting_tree_le {d : Nat} {a : Alternation} {g : Guard}
    {es : List (String × Value)} {b : Alternation} {g' : Guard} : ReadsClauses o d a g es b g' →
      b.nesting ≤ max a.nesting (Value.nestingEntries es)
  | .nil => Nat.le_max_left ..
  | .clause _ _ _ hs hc hi => by
    have hs := hs.nesting_tree_le
    have h := hi.nesting_tree_le
    rw [nesting_of_clause hc] at h
    rw [Value.nestingEntries]
    omega
  | .fail _ _ hb hi => by
    have h := hi.nesting_tree_le
    rw [nesting_of_branch hb, nestingBranches, nestingBranches] at h
    rw [Value.nestingEntries]
    omega
  | .body _ _ hs hb hi => by
    have hs := hs.nesting_tree_le
    have h := hi.nesting_tree_le
    rw [nesting_of_branch hb, nestingBranches, nestingBranches, Nat.max_zero] at h
    rw [Value.nestingEntries]
    omega

theorem ReadsEntries.nesting_tree_le {d : Nat} {g : Guard} {es : List (String × Value)}
    {fs : List (String × Statement)} {g' : Guard} : ReadsEntries o d g es fs g' →
      nestingEntries fs ≤ Value.nestingEntries es
  | .nil => Nat.le_refl _
  | .cons hs hi => by
    have hs := hs.nesting_tree_le
    have h := hi.nesting_tree_le
    rw [nestingEntries, Value.nestingEntries]
    omega

end

theorem nesting_tree_le_of_parse {raw : Value} {t : Statement} (h : parse o raw = .ok t) :
    t.nesting ≤ raw.nesting := by
  obtain ⟨g, hr⟩ := parse_eq_ok_iff.1 h
  exact hr.nesting_tree_le

end Statement

end Recipe
