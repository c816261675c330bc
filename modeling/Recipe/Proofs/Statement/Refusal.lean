import Recipe.Proofs.Statement.Repetition

/-! Why reading refuses a recipe: it is malformed, or it has a selector that is not known. A recipe that is
refused for its depth is deeper than the limit that the error tells, and one that is refused for a repetition
repeats the clause that the error tells. -/

namespace Recipe

open Clause (Head Kind Key classify readHead headsOf)

def GrammarError.Refusal (o : Options) (n : Nat) (v : Value) : GrammarError → Prop
  | .malformed (.depth m) => m = o.maxDepth ∧ o.maxDepth < n
  | .malformed (.duplicate h) => h ≠ .attempt ∧ v.Repeats h
  | .malformed _ | .unknownSelector .. => True
  | .ambiguous .. | .mismatch .. | .unsatisfied _ | .unmatched _ => False

namespace GrammarError

variable {o : Options} {n n' : Nat} {v w : Value} {e : GrammarError}

theorem Refusal.mono (h : e.Refusal o n v) (hn : n ≤ n') (hv : ∀ k, v.Repeats k → w.Repeats k) :
    e.Refusal o n' w := by
  cases e with
  | malformed m =>
    cases m with
    | depth m => exact ⟨h.1, Nat.lt_of_lt_of_le h.2 hn⟩
    | duplicate k => exact ⟨h.1, hv k h.2⟩
    | null | danglingElse | bareTry | mixedKey | clause | family => trivial
  | unknownSelector => trivial
  | ambiguous | mismatch | unsatisfied | unmatched => cases h

theorem Refusal.eq_or (h : e.Refusal o n v) : (∃ m, e = .malformed m) ∨ ∃ s k, e = .unknownSelector s k := by
  cases e with
  | malformed m => exact .inl ⟨m, rfl⟩
  | unknownSelector s k => exact .inr ⟨s, k, rfl⟩
  | ambiguous | mismatch | unsatisfied | unmatched => cases h

end GrammarError

namespace Clause

variable {key : String} {k : Kind} {rest : List Char} {m : Malformed}

theorem readHead_eq_error (h : readHead key k rest = .error m) : ∃ k e, m = .clause key k e := by
  have list {k' : Kind} {cs : List Char} {m : Malformed} (h : (Selectors.parse cs).mapError
      (fun e => Malformed.clause key k' (.selectors e)) = .error m) : ∃ k e, m = .clause key k e := by
    obtain ⟨e, -, rfl⟩ := Except.mapError_eq_error.1 h
    exact ⟨_, _, rfl⟩
  simp only [readHead] at h
  split at h
  · split at h
    · obtain h | ⟨_, -, h⟩ := Except.bind_eq_error.1 h
      · exact list h
      · obtain h | ⟨_, -, h⟩ := Except.bind_eq_error.1 h
        · exact list h
        · cases h
    · exact list (Except.map_eq_error.1 h)
  · exact list (Except.map_eq_error.1 h)
  · repeat
      split at h
      · cases h
        exact ⟨_, _, rfl⟩
    exact list (Except.map_eq_error.1 h)

theorem classify_eq_error (h : classify key = .error m) : ∃ k e, m = .clause key k e := by
  rw [classify] at h
  repeat
    split at h
    · cases h
  exact readHead_eq_error (Except.map_eq_error.1 h)

end Clause

namespace Options

variable {o : Options} {n : Nat} {key : String} {v : Value} {e : GrammarError}

theorem refusal_of_checkSelectors {k : Kind} {ss : Selectors} (h : o.checkSelectors key k ss = .error e) :
    e.Refusal o n v := by
  rw [checkSelectors] at h
  repeat
    split at h
    · cases h
      trivial
  cases h

theorem refusal_of_checkHead {h : Head} (hc : o.checkHead key h = .error e) : e.Refusal o n v := by
  cases h with
  | host | target | platform => exact refusal_of_checkSelectors hc
  | hostTarget ss ts =>
    obtain hc | ⟨_, -, hc⟩ := Except.bind_eq_error.1 hc
    · exact refusal_of_checkSelectors hc
    · exact refusal_of_checkSelectors hc
  | attempt => cases hc

end Options

namespace Alternation

variable {a : Alternation} {o : Options} {n : Nat} {t : Statement} {v : Value} {m : Malformed}

theorem refusal_of_close (ha : a.WellFormed) (hp : a.heads <+: v.heads) (h : a.close = .error m) :
    (GrammarError.malformed m).Refusal o n v := by
  cases m with
  | duplicate k =>
    obtain ⟨hk, hr⟩ := repeated_of_close ha h
    exact ⟨hk, v, .refl, hr.of_prefix hp⟩
  | depth =>
    rw [close] at h
    repeat' split at h
    all_goals cases h
  | null | danglingElse | bareTry | mixedKey | clause | family => trivial

theorem refusal_of_literal (ha : a.WellFormed) (hp : a.heads <+: v.heads) (h : a.literal t = .error m) :
    (GrammarError.malformed m).Refusal o n v := by
  obtain h | ⟨_, -, h⟩ := Except.bind_eq_error.1 h
  · exact refusal_of_close ha hp h
  · cases h

theorem refusal_of_clause {k : Head} (ha : a.WellFormed) (hp : a.heads <+: v.heads)
    (h : a.clause k t = .error m) : (GrammarError.malformed m).Refusal o n v := by
  obtain h | ⟨_, -, h⟩ := Except.bind_eq_error.1 h
  · exact refusal_of_close ha hp h
  · cases h

theorem refusal_of_branch {b : Branch} (h : a.branch b = .error m) :
    (GrammarError.malformed m).Refusal o n v := by
  rw [branch] at h
  split at h <;> cases h
  trivial

end Alternation

namespace Parse

variable {E F : GrammarError → Prop} {o : Options} {n d : Nat} {α β : Type} {p : Parse α}

def Fails (E : GrammarError → Prop) (p : Parse α) : Prop := ∀ g e, p g = .error e → E e

theorem Fails.mono (h : p.Fails E) (hEF : ∀ e, E e → F e) : p.Fails F := fun g e he => hEF e (h g e he)

theorem Fails.bind_of_ok {f : α → Parse β} (hp : p.Fails E)
    (hf : ∀ g x g', p g = .ok (x, g') → (f x).Fails E) : (p >>= f).Fails E := by
  intro g e he
  cases hg : p g with
  | error e' =>
    rw [bind_of_error hg] at he
    cases he
    exact hp g e hg
  | ok r =>
    rw [Parse.bind_of_ok hg] at he
    exact hf g r.1 r.2 hg r.2 e he

theorem Fails.bind {f : α → Parse β} (hp : p.Fails E) (hf : ∀ x, (f x).Fails E) : (p >>= f).Fails E :=
  hp.bind_of_ok fun _ x _ _ => hf x

theorem fails_pure (x : α) : (pure x : Parse α).Fails E := by
  intro g e he
  cases he

theorem fails_throw {e : GrammarError} (h : E e) : (throw e : Parse α).Fails E := by
  intro g e' he
  cases he
  exact h

theorem fails_within (h : o.maxDepth < d → E (.malformed (.depth o.maxDepth))) : (within o d).Fails E := by
  intro g e he
  rw [within] at he
  split at he
  · cases he
    exact h (by assumption)
  · cases he

theorem fails_meet {c : String} (f : Family) (h : ∀ e, E (.malformed (.family c e))) :
    (meet f c).Fails E := by
  intro g e he
  rw [meet] at he
  split at he <;> cases he
  exact h _

theorem fails_liftM_bind {x : Except GrammarError α} {f : α → Parse β} (hx : ∀ e, x = .error e → E e)
    (hf : ∀ y, x = .ok y → (f y).Fails E) : ((liftM x : Parse α) >>= f).Fails E := by
  cases x with
  | ok y => exact hf y rfl
  | error e =>
    intro g e' he
    cases he
    exact hx e rfl

theorem fails_ofMalformed_bind {x : Except Malformed α} {f : α → Parse β}
    (hx : ∀ m, x = .error m → E (.malformed m)) (hf : ∀ y, x = .ok y → (f y).Fails E) :
    (ofMalformed x >>= f).Fails E := by
  apply fails_liftM_bind
  · intro e he
    obtain ⟨m, hm, rfl⟩ := Except.mapError_eq_error.1 he
    exact hx m hm
  · intro y hy
    exact hf y (Except.mapError_eq_ok.1 hy)

end Parse

namespace Statement

open Alternation
open GrammarError (Refusal)

variable {o : Options}

mutual

theorem parseValue_refuses (d : Nat) : ∀ v : Value, (parseValue o d v).Fails (Refusal o (d + v.nesting) v)
  | .unset | .scalar s => by
    rw [parseValue]
    exact (Parse.fails_within fun h => ⟨rfl, h⟩).bind fun _ => Parse.fails_pure _
  | .sequence vs => by
    rw [parseValue]
    -- what is put together is well formed, and its clauses are the first of those read together
    refine (Parse.fails_within fun h => ⟨rfl, Nat.lt_add_right _ h⟩).bind fun _ => ?_
    refine (parseItems_refuses d wellFormed_empty vs (List.Subset.refl vs) List.prefix_rfl).bind_of_ok
      fun _ a _ h => ?_
    have hr := readsItems_of_parseItems vs h
    have hp : a.heads <+: (Value.sequence vs).heads := by rw [hr.heads_eq]; exact List.prefix_rfl
    exact Parse.fails_ofMalformed_bind (fun _ => refusal_of_close (hr.wellFormed wellFormed_empty) hp)
      fun ss _ => Parse.fails_pure _
  | .mapping es => by
    rw [parseValue]
    refine (Parse.fails_within fun h => ⟨rfl, Nat.lt_add_right _ h⟩).bind fun _ => ?_
    split
    · refine (parseClauses_refuses d wellFormed_empty es (fun _ he _ => .entry he) List.prefix_rfl).bind_of_ok
        fun _ a _ h => ?_
      have hr := readsClauses_of_parseClauses es h
      have hp : a.heads <+: (Value.mapping es).heads := by rw [hr.heads_eq]; exact List.prefix_rfl
      refine Parse.fails_ofMalformed_bind (fun _ => refusal_of_close (hr.wellFormed wellFormed_empty) hp)
        fun ss _ => ?_
      split <;> exact Parse.fails_pure _
    · exact (parseEntries_refuses d es (List.Subset.refl es)).bind fun fs => Parse.fails_pure _

theorem parseItems_refuses (d : Nat) {a : Alternation} (ha : a.WellFormed) {ws : List Value} :
    ∀ vs : List Value, vs ⊆ ws → a.heads ++ vs.flatMap Value.opened <+: (Value.sequence ws).heads →
      (parseItems o d a vs).Fails (Refusal o (d + Value.nestingList vs) (.sequence ws))
  | [], hs, hp => by
    rw [parseItems]
    exact Parse.fails_pure _
  | v :: vs, hs, hp => by
    rw [Value.nestingList]
    have hm : v ∈ ws := hs List.mem_cons_self
    have hpa : a.heads <+: (Value.sequence ws).heads := (List.prefix_append ..).trans hp
    have hvs {b : Alternation} (hb : b.WellFormed) (he : b.heads = a.heads ++ v.opened) :
        (parseItems o d b vs).Fails
          (Refusal o (d + max (v.nesting + 1) (Value.nestingList vs)) (.sequence ws)) := by
      rw [List.flatMap_cons, ← List.append_assoc, ← he] at hp
      exact (parseItems_refuses d hb vs (List.subset_of_cons_subset hs) hp).mono
        fun _ h => h.mono (by omega) fun _ => id
    by_cases hl : isLiteralItem v
    · rw [parseItems_literal hl]
      refine ((parseValue_refuses (d + 1) v).mono fun _ h => h.mono (by omega) fun _ => .item hm hl).bind_of_ok
        fun _ t _ ht => ?_
      refine Parse.fails_ofMalformed_bind (fun _ => refusal_of_literal ha hpa) fun b hb => ?_
      have ht := reads_of_parseValue v ht
      obtain ⟨hc, hu, hf⟩ := ht.literal_item hl
      apply hvs (wellFormed_of_literal ha ht.wellFormed hc hu hf hb)
      rw [heads_of_literal hc hb, Value.opened_of_literal hl, List.append_nil]
    · cases v with
      | unset =>
        rw [parseItems]
        exact Parse.fails_throw trivial
      | scalar s =>
        rw [parseItems, if_pos (by simpa [isLiteralItem] using hl)]
        refine (Parse.fails_meet _ fun _ => trivial).bind fun _ => ?_
        refine Parse.fails_ofMalformed_bind (fun _ => refusal_of_branch) fun b hb => ?_
        apply hvs (wellFormed_of_branch ha hb trivial)
        rw [heads_of_branch hb, Value.opened, List.append_nil]
      | sequence ws => exact absurd rfl hl
      | mapping es =>
        rw [parseItems, if_pos (by simpa [isLiteralItem] using hl)]
        have hpe : a.heads ++ headsOf (Entries.keys es) <+: (Value.sequence ws).heads := by
          rw [List.flatMap_cons, ← List.append_assoc] at hp
          exact (List.prefix_append ..).trans hp
        refine ((parseClauses_refuses (d + 1) ha es (fun _ he _ => .clause hm he) hpe).mono
          fun _ h => h.mono (by rw [Value.nesting]; omega) fun _ => id).bind_of_ok fun _ b _ h => ?_
        have hr := readsClauses_of_parseClauses es h
        exact hvs (hr.wellFormed ha) hr.heads_eq

theorem parseClauses_refuses (d : Nat) {a : Alternation} (ha : a.WellFormed) {w : Value} :
    ∀ es : List (String × Value), (∀ e ∈ es, ∀ h, e.2.Repeats h → w.Repeats h) →
      a.heads ++ headsOf (Entries.keys es) <+: w.heads →
      (parseClauses o d a es).Fails (Refusal o (d + Value.nestingEntries es) w)
  | [], hs, hp => by
    rw [parseClauses]
    exact Parse.fails_pure _
  | (k, v) :: es, hs, hp => by
    rw [parseClauses, Value.nestingEntries]
    obtain ⟨hw, hs⟩ := List.forall_mem_cons.1 hs
    have hpa : a.heads <+: w.heads := (List.prefix_append ..).trans hp
    have hv : (parseValue o (d + 1) v).Fails
        (Refusal o (d + max (v.nesting + 1) (Value.nestingEntries es)) w) :=
      (parseValue_refuses (d + 1) v).mono fun _ h => h.mono (by omega) hw
    have hes {b : Alternation} (hb : b.WellFormed)
        (he : b.heads ++ headsOf (Entries.keys es) = a.heads ++ headsOf (k :: Entries.keys es)) :
        (parseClauses o d b es).Fails
          (Refusal o (d + max (v.nesting + 1) (Value.nestingEntries es)) w) := by
      rw [Entries.keys_cons, ← he] at hp
      exact (parseClauses_refuses d hb es hs hp).mono fun _ h => h.mono (by omega) fun _ => id
    refine Parse.fails_ofMalformed_bind (fun m h => ?_) fun key hk => ?_
    · obtain ⟨_, _, rfl⟩ := Clause.classify_eq_error h
      trivial
    cases key with
    | clause h =>
      refine (Parse.fails_meet _ fun _ => trivial).bind fun _ => ?_
      refine Parse.fails_liftM_bind (fun _ => Options.refusal_of_checkHead) fun _ ho => ?_
      refine hv.bind_of_ok fun _ b _ hb => ?_
      refine Parse.fails_ofMalformed_bind (fun _ => refusal_of_clause ha hpa) fun c hc => ?_
      have hh := Options.wellFormed_of_checkHead (Clause.parsed_of_classify hk) ho
      apply hes (wellFormed_of_clause ha hh (reads_of_parseValue v hb).wellFormed hc)
      rw [heads_of_clause hc, Clause.headsOf_cons_clause hk, List.append_assoc, List.singleton_append]
    | otherwise =>
      dsimp only
      split
      · refine Parse.fails_ofMalformed_bind (fun _ => refusal_of_branch) fun c hc => ?_
        apply hes (wellFormed_of_branch ha hc trivial)
        rw [heads_of_branch hc, Clause.headsOf_cons_otherwise hk]
      · rename_i he
        refine hv.bind_of_ok fun _ b _ hb => ?_
        refine Parse.fails_ofMalformed_bind (fun _ => refusal_of_branch) fun c hc => ?_
        have hb := reads_of_parseValue v hb
        apply hes (wellFormed_of_branch ha hc ⟨hb.ne_empty (by simpa using he), hb.wellFormed, trivial⟩)
        rw [heads_of_branch hc, Clause.headsOf_cons_otherwise hk]
    | plain => exact Parse.fails_throw trivial

theorem parseEntries_refuses (d : Nat) {fs : List (String × Value)} :
    ∀ es : List (String × Value), es ⊆ fs →
      (parseEntries o d es).Fails (Refusal o (d + Value.nestingEntries es) (.mapping fs))
  | [], hs => by
    rw [parseEntries]
    exact Parse.fails_pure _
  | (k, v) :: es, hs => by
    rw [parseEntries, Value.nestingEntries]
    have hm : (k, v) ∈ fs := hs List.mem_cons_self
    refine ((parseValue_refuses (d + 1) v).mono fun _ h => h.mono (by omega) fun _ => .entry hm).bind
      fun s => ?_
    exact ((parseEntries_refuses d es (List.subset_of_cons_subset hs)).mono
      fun _ h => h.mono (by omega) fun _ => id).bind fun ss => Parse.fails_pure _

end

theorem parse_eq_error_iff {raw : Value} {e : GrammarError} :
    parse o raw = .error e ↔ parseValue o 0 raw o.variant.guard = .error e := by
  rw [parse, StateT.run']
  cases parseValue o 0 raw o.variant.guard with
  | ok r =>
    constructor <;> intro h <;> cases h
  | error e' =>
    constructor <;> intro h <;> cases h <;> rfl

theorem refusal_of_parse {raw : Value} {e : GrammarError} (h : parse o raw = .error e) :
    e.Refusal o raw.nesting raw := by
  simpa using parseValue_refuses 0 raw _ e (parse_eq_error_iff.1 h)

end Statement

end Recipe
