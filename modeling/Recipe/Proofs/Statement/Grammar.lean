import Recipe.Proofs.Statement.Reads
import Recipe.Proofs.Statement.Alternation

namespace Recipe

namespace Value

mutual

def reserves : Value → Bool
  | .unset | .scalar _ => false
  | .sequence vs => reservesList vs
  | .mapping es => hasReserved es || reservesEntries es

def reservesList : List Value → Bool
  | [] => false
  | v :: vs => v.reserves || reservesList vs

def reservesEntries : List (String × Value) → Bool
  | [] => false
  | (_, v) :: es => v.reserves || reservesEntries es

end

mutual

def hasNullItem : Value → Bool
  | .unset | .scalar _ => false
  | .sequence vs => hasNullItemList vs
  | .mapping es => hasNullItemEntries es

def hasNullItemList : List Value → Bool
  | [] => false
  | v :: vs => v.isUnset || v.hasNullItem || hasNullItemList vs

def hasNullItemEntries : List (String × Value) → Bool
  | [] => false
  | (_, v) :: es => v.hasNullItem || hasNullItemEntries es

end

theorem reservesList_eq_false_iff {vs : List Value} :
    reservesList vs = false ↔ ∀ v ∈ vs, v.reserves = false := by
  induction vs with
  | nil => simp [reservesList]
  | cons v vs ih => rw [reservesList, Bool.or_eq_false_iff, ih, List.forall_mem_cons]

theorem reservesEntries_eq_false_iff {es : List (String × Value)} :
    reservesEntries es = false ↔ ∀ e ∈ es, e.2.reserves = false := by
  induction es with
  | nil => simp [reservesEntries]
  | cons e es ih => rw [reservesEntries, Bool.or_eq_false_iff, ih, List.forall_mem_cons]

theorem hasNullItemList_eq_false_iff {vs : List Value} :
    hasNullItemList vs = false ↔ ∀ v ∈ vs, v.isUnset = false ∧ v.hasNullItem = false := by
  induction vs with
  | nil => simp [hasNullItemList]
  | cons v vs ih =>
    rw [hasNullItemList, Bool.or_eq_false_iff, Bool.or_eq_false_iff, ih, List.forall_mem_cons]

theorem hasNullItemEntries_eq_false_iff {es : List (String × Value)} :
    hasNullItemEntries es = false ↔ ∀ e ∈ es, e.2.hasNullItem = false := by
  induction es with
  | nil => simp [hasNullItemEntries]
  | cons e es ih => rw [hasNullItemEntries, Bool.or_eq_false_iff, ih, List.forall_mem_cons]

end Value

theorem isLiteralItem_ne_unset {v : Value} (h : isLiteralItem v) : v.isUnset = false := by
  cases v with
  | unset => cases h
  | scalar s | sequence vs | mapping es => rfl

theorem hasReserved_ne_nil {es : List (String × Value)} (h : hasReserved es) : es ≠ [] := by
  rintro rfl
  cases h

theorem isEmptyElse_iff {v : Value} : isEmptyElse v ↔ v = .unset ∨ v = .sequence [] := by
  fun_cases isEmptyElse v <;> simp_all

namespace Alternation

variable {a b : Alternation} {ss : List Statement}

def hasClause (a : Alternation) : Bool := a.clause?.isSome || Statement.hasClauseList a.statements

theorem hasClauseList_append (ss ts : List Statement) : Statement.hasClauseList (ss ++ ts) =
    (Statement.hasClauseList ss || Statement.hasClauseList ts) := by
  induction ss with
  | nil => rfl
  | cons s ss ih => simp [Statement.hasClauseList, ih, Bool.or_assoc]

theorem hasClause_of_close (h : a.close = .ok ss) : Statement.hasClauseList ss = a.hasClause := by
  obtain ⟨ts, c?⟩ := a
  cases c? with
  | none =>
    rw [close_none_eq_ok.1 h]
    rfl
  | some c =>
    rw [(close_some_eq_ok.1 h).2, hasClauseList_append]
    simp [Statement.hasClauseList, OpenClause.statement, Statement.hasClause, hasClause]

theorem hasClause_of_literal {t : Statement} (h : a.literal t = .ok b) :
    b.hasClause = (a.hasClause || t.hasClause) := by
  obtain ⟨ss, hc, rfl⟩ := literal_eq_ok.1 h
  rw [← hasClause_of_close hc]
  simp [hasClause, hasClauseList_append, Statement.hasClauseList]

theorem isSome_of_clause {h : Clause.Head} {t : Statement} (hc : a.clause h t = .ok b) :
    b.clause?.isSome := by
  obtain ⟨ss, -, rfl⟩ := clause_eq_ok.1 hc
  rfl

theorem isSome_of_branch {br : Branch} (h : a.branch br = .ok b) :
    a.clause?.isSome ∧ b.clause?.isSome := by
  obtain ⟨c, hc, rfl⟩ := branch_eq_ok.1 h
  exact ⟨by simp [hc], rfl⟩

theorem hasClause_of_isSome (h : a.clause?.isSome) : a.hasClause = true := by
  rw [hasClause, h]
  rfl

end Alternation

namespace Statement

variable {o : Options}

theorem ReadsClauses.isSome {d : Nat} {a : Alternation} {g : Guard} {es : List (String × Value)}
    {b : Alternation} {g' : Guard} : ReadsClauses o d a g es b g' → es ≠ [] ∨ a.clause?.isSome →
    b.clause?.isSome
  | .nil, h => h.resolve_left (by simp)
  | .clause _ _ _ _ hc hi, _ => hi.isSome (.inr (Alternation.isSome_of_clause hc))
  | .fail _ _ hb hi, _ | .body _ _ _ hb hi, _ => hi.isSome (.inr (Alternation.isSome_of_branch hb).2)

theorem ReadsClauses.hasClause_eq {d : Nat} {a : Alternation} {g : Guard}
    {es : List (String × Value)} {b : Alternation} {g' : Guard} (h : ReadsClauses o d a g es b g')
    (hr : hasReserved es) : b.hasClause = true :=
  Alternation.hasClause_of_isSome (h.isSome (.inl (hasReserved_ne_nil hr)))

mutual

theorem Reads.hasClause_eq {d : Nat} {g : Guard} {v : Value} {t : Statement} {g' : Guard} :
    Reads o d g v t g' → t.hasClause = v.reserves
  | .unset _ | .scalar _ => rfl
  | .sequence _ hi hc => by
    rw [hasClause, Alternation.hasClause_of_close hc, hi.hasClause_eq]
    rfl
  | .single _ hr hi hc => by
    have h := Alternation.hasClause_of_close hc
    rw [hi.hasClause_eq hr] at h
    simpa [hasClauseList, Value.reserves, hr] using h
  | .clauses _ hr hi hc _ => by
    have h := Alternation.hasClause_of_close hc
    rw [hi.hasClause_eq hr] at h
    simpa [hasClause, Value.reserves, hr] using h
  | .literal _ hr hi hc => by
    rw [hi.hasClause_eq] at hc
    simp [hasClause, Value.reserves, hr, hc]
  | .mapping _ hr hi hc => by
    rw [hi.hasClause_eq] at hc
    simp [hasClause, Value.reserves, hi.hasClause_eq, hc]

theorem ReadsItems.hasClause_eq {d : Nat} {a : Alternation} {g : Guard} {vs : List Value}
    {b : Alternation} {g' : Guard} :
    ReadsItems o d a g vs b g' → b.hasClause = (a.hasClause || Value.reservesList vs)
  | .nil => by simp [Value.reservesList]
  | .fail _ hb hi => by
    obtain ⟨ha, hb⟩ := Alternation.isSome_of_branch hb
    rw [hi.hasClause_eq, Alternation.hasClause_of_isSome ha, Alternation.hasClause_of_isSome hb]
    rfl
  | .literal _ ht hl hi => by
    rw [hi.hasClause_eq, Alternation.hasClause_of_literal hl, ht.hasClause_eq, Value.reservesList,
      Bool.or_assoc]
  | .clauses hr hc hi => by
    rw [hi.hasClause_eq, hc.hasClause_eq hr]
    simp [Value.reservesList, Value.reserves, hr]

theorem ReadsEntries.hasClause_eq {d : Nat} {g : Guard} {es : List (String × Value)}
    {fs : List (String × Statement)} {g' : Guard} :
    ReadsEntries o d g es fs g' → hasClauseEntries fs = Value.reservesEntries es
  | .nil => rfl
  | .cons hs hi => by rw [hasClauseEntries, hs.hasClause_eq, hi.hasClause_eq, Value.reservesEntries]

end

mutual

theorem Reads.hasNullItem_eq {d : Nat} {g : Guard} {v : Value} {t : Statement} {g' : Guard} :
    Reads o d g v t g' → v.hasNullItem = false
  | .unset _ | .scalar _ => rfl
  | .sequence _ hi _ => hi.hasNullItem_eq
  | .single _ _ hi _ | .clauses _ _ hi _ _ => hi.hasNullItem_eq
  | .literal _ _ hi _ | .mapping _ _ hi _ => hi.hasNullItem_eq

theorem ReadsItems.hasNullItem_eq {d : Nat} {a : Alternation} {g : Guard} {vs : List Value}
    {b : Alternation} {g' : Guard} : ReadsItems o d a g vs b g' → Value.hasNullItemList vs = false
  | .nil => rfl
  | .fail _ _ hi => hi.hasNullItem_eq
  | .literal hv ht _ hi => by
    simp [Value.hasNullItemList, isLiteralItem_ne_unset hv, ht.hasNullItem_eq, hi.hasNullItem_eq]
  | .clauses _ hc hi => by
    rw [Value.hasNullItemList, Value.hasNullItem, hc.hasNullItem_eq, hi.hasNullItem_eq]
    rfl

theorem ReadsClauses.hasNullItem_eq {d : Nat} {a : Alternation} {g : Guard}
    {es : List (String × Value)} {b : Alternation} {g' : Guard} :
    ReadsClauses o d a g es b g' → Value.hasNullItemEntries es = false
  | .nil => rfl
  | .clause _ _ _ hs _ hi | .body _ _ hs _ hi => by
    rw [Value.hasNullItemEntries, hs.hasNullItem_eq, hi.hasNullItem_eq]
    rfl
  | .fail (v := v) _ he _ hi => by
    have hv : v.hasNullItem = false := by
      rcases isEmptyElse_iff.1 he with rfl | rfl <;> rfl
    rw [Value.hasNullItemEntries, hv, hi.hasNullItem_eq]
    rfl

theorem ReadsEntries.hasNullItem_eq {d : Nat} {g : Guard} {es : List (String × Value)}
    {fs : List (String × Statement)} {g' : Guard} :
    ReadsEntries o d g es fs g' → Value.hasNullItemEntries es = false
  | .nil => rfl
  | .cons hs hi => by
    rw [Value.hasNullItemEntries, hs.hasNullItem_eq, hi.hasNullItem_eq]
    rfl

end

end Statement

end Recipe
