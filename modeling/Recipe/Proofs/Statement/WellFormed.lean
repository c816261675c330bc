import Mathlib
import Recipe.Proofs.Clause.WellFormed
import Recipe.Proofs.Statement.Grammar

namespace Recipe

open Clause (Head elseFail isReserved)

namespace Statement

/-- What an alternation may list: no two clauses of one kind with the same selectors, no null, and no
`else fail`. -/
structure Items (ss : List Statement) : Prop where
  distinct : ss.Pairwise fun s t => s.sameClause t = false ∧ t.sameClause s = false
  unset_not_mem : .leaf .unset ∉ ss
  elseFail_not_mem : .leaf (.string elseFail) ∉ ss

mutual

def WellFormed : Statement → Prop
  | .leaf v => v.isSequence = false ∧ v.reserves = false ∧ v.hasNullItem = false
  | .clause h b bs =>
    h.WellFormed ∧ (h = .attempt → bs ≠ []) ∧ b.WellFormed ∧ WellFormedBranches bs
  | .sequence ss => Items ss ∧ WellFormedList ss
  | .mapping es =>
    (∀ e ∈ es, isReserved e.1 = false) ∧ (∃ e ∈ es, e.2.hasClause) ∧ WellFormedEntries es

def WellFormedBranches : List Branch → Prop
  | [] => True
  | .fail :: bs => WellFormedBranches bs
  | .body s :: bs => (s ≠ .leaf .unset ∧ s ≠ .sequence []) ∧ s.WellFormed ∧ WellFormedBranches bs

def WellFormedList : List Statement → Prop
  | [] => True
  | s :: ss => s.WellFormed ∧ WellFormedList ss

def WellFormedEntries : List (String × Statement) → Prop
  | [] => True
  | (_, s) :: es => s.WellFormed ∧ WellFormedEntries es

end

theorem wellFormedList_iff {ss : List Statement} : WellFormedList ss ↔ ∀ s ∈ ss, s.WellFormed := by
  induction ss with
  | nil => simp [WellFormedList]
  | cons s ss ih => simp [WellFormedList, ih]

theorem wellFormedEntries_iff {es : List (String × Statement)} :
    WellFormedEntries es ↔ ∀ e ∈ es, e.2.WellFormed := by
  induction es with
  | nil => simp [WellFormedEntries]
  | cons e es ih => simp [WellFormedEntries, ih]

theorem wellFormedBranches_append {bs cs : List Branch} :
    WellFormedBranches (bs ++ cs) ↔ WellFormedBranches bs ∧ WellFormedBranches cs := by
  induction bs with
  | nil => simp [WellFormedBranches]
  | cons b bs ih => cases b <;> simp [WellFormedBranches, ih, and_assoc]

theorem hasClauseEntries_iff {es : List (String × Statement)} :
    hasClauseEntries es ↔ ∃ e ∈ es, e.2.hasClause := by
  induction es with
  | nil => simp [hasClauseEntries]
  | cons e es ih => simp [hasClauseEntries, ih]

theorem sameClause_comm (s t : Statement) : s.sameClause t = t.sameClause s := by
  simp only [sameClause]
  cases s.head? <;> cases t.head? <;> try rfl
  rename_i a b
  by_cases h : a = b
  · rw [h]
  · simp [Head.same, h, Ne.symm h]

def Formed (ss : List Statement) : Prop := Items ss ∧ ∀ s ∈ ss, s.WellFormed

theorem Formed.nil : Formed [] := ⟨⟨.nil, by simp, by simp⟩, by simp⟩

theorem Formed.concat {ss : List Statement} {t : Statement} (h : Formed ss) (ht : t.WellFormed)
    (hs : ∀ s ∈ ss, s.sameClause t = false) (hu : t ≠ .leaf .unset)
    (hf : t ≠ .leaf (.string elseFail)) : Formed (ss ++ [t]) := by
  obtain ⟨⟨hd, hnu, hnf⟩, hw⟩ := h
  refine ⟨⟨?_, ?_, ?_⟩, ?_⟩
  · rw [List.pairwise_append]
    refine ⟨hd, List.pairwise_singleton .., ?_⟩
    intro s hm u hu
    obtain rfl := List.mem_singleton.1 hu
    exact ⟨hs s hm, by rw [sameClause_comm, hs s hm]⟩
  · simp [hnu, Ne.symm hu]
  · simp [hnf, Ne.symm hf]
  · intro s hm
    rcases List.mem_append.1 hm with hm | hm
    · exact hw s hm
    · rwa [List.mem_singleton.1 hm]

end Statement

namespace Alternation

open Statement (Formed WellFormedBranches)

variable {a b : Alternation} {ss : List Statement}

/-- What holds of an alternation while it is put together: whatever is closed is well formed, and the open
clause lacks at most a branch. -/
structure WellFormed (a : Alternation) : Prop where
  formed : Formed a.statements
  clause : ∀ c, a.clause? = some c →
    c.head.WellFormed ∧ c.body.WellFormed ∧ WellFormedBranches c.branches

theorem wellFormed_empty : empty.WellFormed := ⟨.nil, by simp [empty]⟩

theorem formed_of_close (ha : a.WellFormed) (h : a.close = .ok ss) : Formed ss := by
  obtain ⟨ts, c?⟩ := a
  cases c? with
  | none =>
    rw [close_none_eq_ok.1 h]
    exact ha.formed
  | some c =>
    obtain ⟨⟨ht, hn⟩, rfl⟩ := close_some_eq_ok.1 h
    obtain ⟨hh, hb, hbs⟩ := ha.clause c rfl
    exact ha.formed.concat ⟨hh, ht, hb, hbs⟩ hn (by simp [OpenClause.statement])
      (by simp [OpenClause.statement])

theorem wellFormed_of_literal {t : Statement} (ha : a.WellFormed) (ht : t.WellFormed)
    (hc : t.head? = none) (hu : t ≠ .leaf .unset) (hf : t ≠ .leaf (.string elseFail))
    (h : a.literal t = .ok b) : b.WellFormed := by
  obtain ⟨ss, hs, rfl⟩ := literal_eq_ok.1 h
  refine ⟨(formed_of_close ha hs).concat ht ?_ hu hf, by simp⟩
  intro s _
  rw [Statement.sameClause, hc]
  cases s.head? <;> rfl

theorem wellFormed_of_clause {h : Head} {t : Statement} (ha : a.WellFormed) (hh : h.WellFormed)
    (ht : t.WellFormed) (hc : a.clause h t = .ok b) : b.WellFormed := by
  obtain ⟨ss, hs, rfl⟩ := clause_eq_ok.1 hc
  refine ⟨formed_of_close ha hs, ?_⟩
  intro c hc
  cases hc
  exact ⟨hh, ht, trivial⟩

theorem wellFormed_of_branch {br : Branch} (ha : a.WellFormed) (h : a.branch br = .ok b)
    (hb : WellFormedBranches [br]) : b.WellFormed := by
  obtain ⟨c, hc, rfl⟩ := branch_eq_ok.1 h
  obtain ⟨hh, ht, hbs⟩ := ha.clause c hc
  refine ⟨ha.formed, ?_⟩
  intro c' hc'
  cases hc'
  exact ⟨hh, ht, Statement.wellFormedBranches_append.2 ⟨hbs, hb⟩⟩

def Clauses (a : Alternation) : Prop := ∀ s ∈ a.statements, s.isClause

theorem clauses_empty : empty.Clauses := by simp [Clauses, empty]

theorem clauses_of_close (ha : a.Clauses) (h : a.close = .ok ss) : ∀ s ∈ ss, s.isClause := by
  obtain ⟨ts, c?⟩ := a
  cases c? with
  | none =>
    rw [close_none_eq_ok.1 h]
    exact ha
  | some c =>
    rw [(close_some_eq_ok.1 h).2]
    intro s hs
    rcases List.mem_append.1 hs with hs | hs
    · exact ha s hs
    · rw [List.mem_singleton.1 hs]
      rfl

end Alternation

namespace Statement

open Alternation

variable {o : Options}

theorem ReadsClauses.clauses {d : Nat} {a : Alternation} {g : Guard} {es : List (String × Value)}
    {b : Alternation} {g' : Guard} : ReadsClauses o d a g es b g' → a.Clauses → b.Clauses
  | .nil, h => h
  | .clause _ _ _ _ hc hi, h => hi.clauses <| by
    obtain ⟨ss, hs, rfl⟩ := clause_eq_ok.1 hc
    exact clauses_of_close h hs
  | .fail _ _ hb hi, h | .body _ _ _ hb hi, h => hi.clauses <| by
    obtain ⟨c, -, rfl⟩ := branch_eq_ok.1 hb
    exact h

theorem ReadsItems.ne_nil {d : Nat} {a : Alternation} {g : Guard} {vs : List Value}
    {b : Alternation} {g' : Guard} :
    ReadsItems o d a g vs b g' → (vs ≠ [] ∨ a.statements ≠ [] ∨ a.clause?.isSome) →
      b.statements ≠ [] ∨ b.clause?.isSome
  | .nil, h => h.resolve_left (by simp)
  | .fail _ hb hi, _ => hi.ne_nil (.inr (.inr (isSome_of_branch hb).2))
  | .literal _ _ hl hi, _ => hi.ne_nil <| by
    obtain ⟨ss, -, rfl⟩ := literal_eq_ok.1 hl
    simp
  | .clauses hr hc hi, _ => hi.ne_nil (.inr (.inr (hc.isSome (.inl (hasReserved_ne_nil hr)))))

theorem ne_nil_of_close {a : Alternation} {ss : List Statement} (h : a.close = .ok ss)
    (ha : a.statements ≠ [] ∨ a.clause?.isSome) : ss ≠ [] := by
  obtain ⟨ts, c?⟩ := a
  cases c? with
  | none =>
    rw [close_none_eq_ok.1 h]
    simpa using ha
  | some c =>
    rw [(close_some_eq_ok.1 h).2]
    simp

theorem Reads.ne_empty {d : Nat} {g : Guard} {v : Value} {t : Statement} {g' : Guard}
    (h : Reads o d g v t g') (hv : isEmptyElse v = false) : t ≠ .leaf .unset ∧ t ≠ .sequence [] := by
  cases h with
  | unset => cases hv
  | scalar | literal | mapping => simp
  | sequence _ hi hc =>
    refine ⟨by simp, ?_⟩
    intro he
    cases he
    -- each item leaves a statement or an open clause, and without items it is an empty `else`
    refine ne_nil_of_close hc (hi.ne_nil (.inl ?_)) rfl
    rintro rfl
    cases hv
  | single _ _ hi hc =>
    have hs : t.isClause := clauses_of_close (hi.clauses clauses_empty) hc t List.mem_cons_self
    constructor <;> rintro rfl <;> cases hs
  | clauses _ hr hi hc _ =>
    refine ⟨by simp, ?_⟩
    intro he
    cases he
    exact ne_nil_of_close hc (.inr (hi.isSome (.inl (hasReserved_ne_nil hr)))) rfl

theorem Reads.literal_item {d : Nat} {g : Guard} {v : Value} {t : Statement} {g' : Guard}
    (h : Reads o d g v t g') (hv : isLiteralItem v) :
    t.head? = none ∧ t ≠ .leaf .unset ∧ t ≠ .leaf (.string elseFail) := by
  cases h with
  | unset => cases hv
  | scalar => exact ⟨rfl, by simp, by simpa [isLiteralItem] using hv⟩
  | sequence | literal | mapping => exact ⟨rfl, by simp, by simp⟩
  | single _ hr | clauses _ hr => simp [isLiteralItem, hr] at hv

theorem ReadsEntries.keys_eq {d : Nat} {g : Guard} {es : List (String × Value)}
    {fs : List (String × Statement)} {g' : Guard} (h : ReadsEntries o d g es fs g') :
    fs.map Prod.fst = es.map Prod.fst := by
  induction es generalizing g fs with
  | nil =>
    cases h
    rfl
  | cons e es ih =>
    cases h with
    | cons hs hi => rw [List.map_cons, List.map_cons, ih hi]

theorem ReadsEntries.isReserved_eq {d : Nat} {g : Guard} {es : List (String × Value)}
    {fs : List (String × Statement)} {g' : Guard} (h : ReadsEntries o d g es fs g')
    (hr : hasReserved es = false) : ∀ e ∈ fs, isReserved e.1 = false := by
  intro e he
  have hk : e.1 ∈ es.map Prod.fst := h.keys_eq ▸ List.mem_map_of_mem he
  obtain ⟨e', he', hk⟩ := List.mem_map.1 hk
  rw [hasReserved, List.any_eq_false] at hr
  simpa [hk] using hr e' he'

mutual

theorem Reads.wellFormed {d : Nat} {g : Guard} {v : Value} {t : Statement} {g' : Guard} :
    Reads o d g v t g' → t.WellFormed
  | .unset _ | .scalar _ => ⟨rfl, rfl, rfl⟩
  | .sequence _ hi hc =>
    have h := formed_of_close (hi.wellFormed wellFormed_empty) hc
    ⟨h.1, wellFormedList_iff.2 h.2⟩
  | .single _ _ hi hc =>
    (formed_of_close (hi.wellFormed wellFormed_empty) hc).2 _ List.mem_cons_self
  | .clauses _ _ hi hc _ =>
    have h := formed_of_close (hi.wellFormed wellFormed_empty) hc
    ⟨h.1, wellFormedList_iff.2 h.2⟩
  | .literal hd hr hi hc =>
    have h := Reads.literal hd hr hi hc
    ⟨rfl, by rw [← h.hasClause_eq]; rfl, h.hasNullItem_eq⟩
  | .mapping _ hr hi hc => ⟨hi.isReserved_eq hr, hasClauseEntries_iff.1 hc, hi.wellFormed⟩

theorem ReadsItems.wellFormed {d : Nat} {a : Alternation} {g : Guard} {vs : List Value}
    {b : Alternation} {g' : Guard} : ReadsItems o d a g vs b g' → a.WellFormed → b.WellFormed
  | .nil, ha => ha
  | .fail _ hb hi, ha => hi.wellFormed (wellFormed_of_branch ha hb trivial)
  | .literal hv ht hl hi, ha =>
    have ⟨hc, hu, hf⟩ := ht.literal_item hv
    hi.wellFormed (wellFormed_of_literal ha ht.wellFormed hc hu hf hl)
  | .clauses _ hc hi, ha => hi.wellFormed (hc.wellFormed ha)

theorem ReadsClauses.wellFormed {d : Nat} {a : Alternation} {g : Guard}
    {es : List (String × Value)} {b : Alternation} {g' : Guard} :
    ReadsClauses o d a g es b g' → a.WellFormed → b.WellFormed
  | .nil, ha => ha
  | .clause hk _ ho hs hc hi, ha =>
    have hh := Options.wellFormed_of_checkHead (Clause.parsed_of_classify hk) ho
    hi.wellFormed (wellFormed_of_clause ha hh hs.wellFormed hc)
  | .fail _ _ hb hi, ha => hi.wellFormed (wellFormed_of_branch ha hb trivial)
  | .body _ he hs hb hi, ha =>
    hi.wellFormed (wellFormed_of_branch ha hb ⟨hs.ne_empty he, hs.wellFormed, trivial⟩)

theorem ReadsEntries.wellFormed {d : Nat} {g : Guard} {es : List (String × Value)}
    {fs : List (String × Statement)} {g' : Guard} :
    ReadsEntries o d g es fs g' → WellFormedEntries fs
  | .nil => trivial
  | .cons hs hi => ⟨hs.wellFormed, hi.wellFormed⟩

end

/-- Every tree that parsing yields is well formed, at every node and any depth. -/
theorem parse_wellFormed {raw : Value} {t : Statement} (h : parse o raw = .ok t) : t.WellFormed := by
  obtain ⟨g, hr⟩ := parse_eq_ok_iff.1 h
  exact hr.wellFormed

def mixedRecipe : Value :=
  .sequence [.string "gcc", .mapping [("on i386,amd64 to arm64", .string "a")], .string elseFail,
    .mapping [("try", .mapping [("k", .sequence [.mapping [("to other", .string "b")]])]),
      ("else", .unset)]]

def mixedTree : Statement :=
  .sequence [.leaf (.string "gcc"),
    .clause (.hostTarget (.ofList ["amd64", "i386"]) (.ofList ["arm64"])) (.leaf (.string "a"))
      [.fail],
    .clause .attempt
      (.mapping [("k", .sequence [.clause (.target (.ofList ["other"])) (.leaf (.string "b")) []])])
      [.fail]]

theorem parse_wellFormed_mixed : parse {} mixedRecipe = .ok mixedTree ∧ mixedTree.WellFormed :=
  have h : parse {} mixedRecipe = .ok mixedTree := by cbv
  ⟨h, parse_wellFormed h⟩

end Statement

end Recipe
