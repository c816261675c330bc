import Recipe.Proofs.Statement.Reads
import Recipe.Proofs.Statement.Alternation

namespace Recipe

open Clause (Head Kind)

namespace Statement

mutual

def allHeads : Statement → List Head
  | .leaf _ => []
  | .clause h b bs => h :: (b.allHeads ++ allHeadsBranches bs)
  | .sequence ss => allHeadsList ss
  | .mapping es => allHeadsEntries es

def allHeadsBranches : List Branch → List Head
  | [] => []
  | .fail :: bs => allHeadsBranches bs
  | .body s :: bs => s.allHeads ++ allHeadsBranches bs

def allHeadsList : List Statement → List Head
  | [] => []
  | s :: ss => s.allHeads ++ allHeadsList ss

def allHeadsEntries : List (String × Statement) → List Head
  | [] => []
  | (_, s) :: es => s.allHeads ++ allHeadsEntries es

end

mutual

theorem allHeads_eq_nil : ∀ s : Statement, s.allHeads = [] ↔ s.hasClause = false
  | .leaf _ => by simp [allHeads, hasClause]
  | .clause .. => by simp [allHeads, hasClause]
  | .sequence ss => allHeadsList_eq_nil ss
  | .mapping es => allHeadsEntries_eq_nil es

theorem allHeadsList_eq_nil : ∀ ss : List Statement, allHeadsList ss = [] ↔ hasClauseList ss = false
  | [] => by simp [allHeadsList, hasClauseList]
  | s :: ss => by simp [allHeadsList, hasClauseList, allHeads_eq_nil s, allHeadsList_eq_nil ss]

theorem allHeadsEntries_eq_nil : ∀ es : List (String × Statement),
    allHeadsEntries es = [] ↔ hasClauseEntries es = false
  | [] => by simp [allHeadsEntries, hasClauseEntries]
  | (k, s) :: es => by
    simp [allHeadsEntries, hasClauseEntries, allHeads_eq_nil s, allHeadsEntries_eq_nil es]

end

theorem allHeadsList_append (ss ts : List Statement) :
    allHeadsList (ss ++ ts) = allHeadsList ss ++ allHeadsList ts := by
  induction ss with
  | nil => rfl
  | cons s ss ih => simp [allHeadsList, ih]

theorem allHeadsBranches_append (bs cs : List Branch) :
    allHeadsBranches (bs ++ cs) = allHeadsBranches bs ++ allHeadsBranches cs := by
  induction bs with
  | nil => rfl
  | cons b bs ih => cases b <;> simp [allHeadsBranches, ih]

end Statement

namespace Alternation

open Statement (allHeadsList allHeadsBranches)

variable {a b : Alternation} {ss : List Statement}

def allHeads (a : Alternation) : List Head :=
  allHeadsList a.statements ++ (a.clause?.map fun c => c.statement.allHeads).getD []

theorem allHeads_of_close (h : a.close = .ok ss) : allHeadsList ss = a.allHeads := by
  obtain ⟨ts, c?⟩ := a
  cases c? with
  | none =>
    rw [close_none_eq_ok.1 h]
    simp [allHeads]
  | some c =>
    rw [(close_some_eq_ok.1 h).2, Statement.allHeadsList_append]
    simp [allHeads, allHeadsList]

theorem allHeads_of_literal {t : Statement} (h : a.literal t = .ok b) :
    b.allHeads = a.allHeads ++ t.allHeads := by
  obtain ⟨ss, hs, rfl⟩ := literal_eq_ok.1 h
  rw [← allHeads_of_close hs]
  simp [allHeads, Statement.allHeadsList_append, allHeadsList]

theorem allHeads_of_clause {h : Head} {t : Statement} (hc : a.clause h t = .ok b) :
    b.allHeads = a.allHeads ++ h :: t.allHeads := by
  obtain ⟨ss, hs, rfl⟩ := clause_eq_ok.1 hc
  rw [← allHeads_of_close hs]
  simp [allHeads, OpenClause.statement, Statement.allHeads, allHeadsBranches]

theorem allHeads_of_branch {br : Branch} (h : a.branch br = .ok b) :
    b.allHeads = a.allHeads ++ allHeadsBranches [br] := by
  obtain ⟨c, hc, rfl⟩ := branch_eq_ok.1 h
  simp [allHeads, hc, OpenClause.statement, Statement.allHeads, Statement.allHeadsBranches_append]

end Alternation

namespace Guard

/-- What becomes of a guard: it stays, or the first construct met decides on a family. -/
inductive Becomes : Guard → Guard → Prop
  | same : Becomes g g
  | decided : Becomes (.detect none) (.detect (some f))

def Fixes (f : Family) : Guard → Prop
  | .only g => g = f
  | .detect g => g = some f

variable {g g' g'' : Guard} {f f' : Family}

theorem Becomes.trans (h : g.Becomes g') (h' : g'.Becomes g'') : g.Becomes g'' := by
  cases h with
  | same => exact h'
  | decided =>
    cases h' with
    | same => exact .decided

theorem Becomes.fixes (h : g.Becomes g') (hf : g.Fixes f) : g'.Fixes f := by
  cases h with
  | same => exact hf
  | decided => cases hf

theorem Fixes.eq (h : g.Fixes f) (h' : g.Fixes f') : f = f' := by
  cases g with
  | only x => exact h.symm.trans h'
  | detect x => exact Option.some.inj (h.symm.trans h')

theorem of_meet (h : g.meet f = .ok g') : g.Becomes g' ∧ g'.Fixes f := by
  cases g with
  | only x =>
    by_cases hx : f = x
    · rw [meet, if_pos hx] at h
      cases h
      exact ⟨.same, hx.symm⟩
    · rw [meet, if_neg hx] at h
      cases h
  | detect x =>
    cases x with
    | none =>
      cases h
      exact ⟨.decided, rfl⟩
    | some x =>
      by_cases hx : f = x
      · rw [meet, if_pos hx] at h
        cases h
        exact ⟨.same, hx ▸ rfl⟩
      · rw [meet, if_neg hx] at h
        cases h

end Guard

namespace Statement

variable {o : Options}

mutual

theorem Reads.becomes {d : Nat} {g : Guard} {v : Value} {t : Statement} {g' : Guard} :
    Reads o d g v t g' → g.Becomes g'
  | .unset _ | .scalar _ => .same
  | .sequence _ hi _ => hi.becomes
  | .single _ _ hi _ | .clauses _ _ hi _ _ => hi.becomes
  | .literal _ _ hi _ | .mapping _ _ hi _ => hi.becomes

theorem ReadsItems.becomes {d : Nat} {a : Alternation} {g : Guard} {vs : List Value}
    {b : Alternation} {g' : Guard} : ReadsItems o d a g vs b g' → g.Becomes g'
  | .nil => .same
  | .fail hm _ hi => (Guard.of_meet hm).1.trans hi.becomes
  | .literal _ ht _ hi => ht.becomes.trans hi.becomes
  | .clauses _ hc hi => hc.becomes.trans hi.becomes

theorem ReadsClauses.becomes {d : Nat} {a : Alternation} {g : Guard} {es : List (String × Value)}
    {b : Alternation} {g' : Guard} : ReadsClauses o d a g es b g' → g.Becomes g'
  | .nil => .same
  | .clause _ hm _ hs _ hi => ((Guard.of_meet hm).1.trans hs.becomes).trans hi.becomes
  | .fail _ _ _ hi => hi.becomes
  | .body _ _ hs _ hi => hs.becomes.trans hi.becomes

theorem ReadsEntries.becomes {d : Nat} {g : Guard} {es : List (String × Value)}
    {fs : List (String × Statement)} {g' : Guard} : ReadsEntries o d g es fs g' → g.Becomes g'
  | .nil => .same
  | .cons hs hi => hs.becomes.trans hi.becomes

end

mutual

theorem Reads.fixes_family {d : Nat} {g : Guard} {v : Value} {t : Statement} {g' : Guard} :
    Reads o d g v t g' → ∀ h ∈ t.allHeads, g'.Fixes h.kind.family
  | .unset _, _, hm | .scalar _, _, hm | .literal _ _ _ _, _, hm => by cases hm
  | .sequence _ hi hc, h, hm => by
    rw [allHeads, Alternation.allHeads_of_close hc] at hm
    exact hi.fixes_family (by simp [Alternation.allHeads, Alternation.empty, allHeadsList]) h hm
  | .single _ _ hi hc, h, hm => by
    have hs := Alternation.allHeads_of_close hc
    rw [allHeadsList, allHeadsList, List.append_nil] at hs
    rw [hs] at hm
    exact hi.fixes_family (by simp [Alternation.allHeads, Alternation.empty, allHeadsList]) h hm
  | .clauses _ _ hi hc _, h, hm => by
    rw [allHeads, Alternation.allHeads_of_close hc] at hm
    exact hi.fixes_family (by simp [Alternation.allHeads, Alternation.empty, allHeadsList]) h hm
  | .mapping _ _ hi _, h, hm => hi.fixes_family h hm

theorem ReadsItems.fixes_family {d : Nat} {a : Alternation} {g : Guard} {vs : List Value}
    {b : Alternation} {g' : Guard} : ReadsItems o d a g vs b g' →
    (∀ h ∈ a.allHeads, g.Fixes h.kind.family) → ∀ h ∈ b.allHeads, g'.Fixes h.kind.family
  | .nil, ha => ha
  | .fail hm hb hi, ha => hi.fixes_family <| by
    rw [Alternation.allHeads_of_branch hb]
    simpa [allHeadsBranches] using fun h hh => (Guard.of_meet hm).1.fixes (ha h hh)
  | .literal _ ht hl hi, ha => hi.fixes_family <| by
    rw [Alternation.allHeads_of_literal hl]
    intro h hh
    rcases List.mem_append.1 hh with hh | hh
    · exact ht.becomes.fixes (ha h hh)
    · exact ht.fixes_family h hh
  | .clauses _ hc hi, ha => hi.fixes_family (hc.fixes_family ha)

theorem ReadsClauses.fixes_family {d : Nat} {a : Alternation} {g : Guard}
    {es : List (String × Value)} {b : Alternation} {g' : Guard} : ReadsClauses o d a g es b g' →
    (∀ h ∈ a.allHeads, g.Fixes h.kind.family) → ∀ h ∈ b.allHeads, g'.Fixes h.kind.family
  | .nil, ha => ha
  | .clause _ hm _ hs hc hi, ha => hi.fixes_family <| by
    rw [Alternation.allHeads_of_clause hc]
    intro h hh
    rcases List.mem_append.1 hh with hh | hh
    · exact (((Guard.of_meet hm).1.trans hs.becomes).fixes (ha h hh))
    · rcases List.mem_cons.1 hh with rfl | hh
      · exact hs.becomes.fixes (Guard.of_meet hm).2
      · exact hs.fixes_family h hh
  | .fail _ _ hb hi, ha => hi.fixes_family <| by
    rw [Alternation.allHeads_of_branch hb]
    simpa [allHeadsBranches] using ha
  | .body _ _ hs hb hi, ha => hi.fixes_family <| by
    rw [Alternation.allHeads_of_branch hb]
    intro h hh
    rcases List.mem_append.1 hh with hh | hh
    · exact hs.becomes.fixes (ha h hh)
    · rw [allHeadsBranches, allHeadsBranches, List.append_nil] at hh
      exact hs.fixes_family h hh

theorem ReadsEntries.fixes_family {d : Nat} {g : Guard} {es : List (String × Value)}
    {fs : List (String × Statement)} {g' : Guard} :
    ReadsEntries o d g es fs g' → ∀ h ∈ allHeadsEntries fs, g'.Fixes h.kind.family
  | .nil, _, hm => by cases hm
  | .cons hs hi, h, hm => by
    rcases List.mem_append.1 hm with hm | hm
    · exact hi.becomes.fixes (hs.fixes_family h hm)
    · exact hi.fixes_family h hm

end

theorem family_of_parse {f : Family} {raw : Value} {t : Statement} (hf : o.variant = .only f)
    (hp : parse o raw = .ok t) : ∀ h ∈ t.allHeads, h.kind.family = f := by
  obtain ⟨g, hr⟩ := parse_eq_ok_iff.1 hp
  intro h hm
  have hg : g.Fixes f := hr.becomes.fixes (by rw [hf]; rfl)
  exact (hr.fixes_family h hm).eq hg

end Statement

end Recipe
