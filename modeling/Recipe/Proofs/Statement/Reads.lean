import Recipe.Proofs.Except
import Recipe.Statement.Parse

/-! Reading as a relation: a rule for each way a value, an item, or an entry can be read. The rules give
exactly what the reader accepts, so what every tree satisfies is proved by induction on them. -/

namespace Recipe

open Clause (Head Kind Key classify elseFail isReserved)

namespace Parse

variable {α β : Type} {g g' g'' : Guard}

theorem bind_of_ok {p : Parse α} {f : α → Parse β} {x : α} (h : p g = .ok (x, g')) :
    (p >>= f) g = f x g' := by
  simp [bind, StateT.bind, h, Except.bind]

theorem bind_of_error {p : Parse α} {f : α → Parse β} {e : GrammarError} (h : p g = .error e) :
    (p >>= f) g = .error e := by
  simp [bind, StateT.bind, h, Except.bind]

theorem liftM_of_ok {x : Except GrammarError α} {y : α} (h : x = .ok y) :
    (liftM x : Parse α) g = .ok (y, g) := by
  rw [h]
  rfl

theorem ofMalformed_of_ok {x : Except Malformed α} {y : α} (h : x = .ok y) :
    ofMalformed x g = .ok (y, g) := by
  rw [h]
  rfl

theorem meet_of_ok {f : Family} {c : String} (h : g.meet f = .ok g') : meet f c g = .ok ((), g') := by
  rw [meet, h]

theorem within_of_le {o : Options} {d : Nat} (h : d ≤ o.maxDepth) : within o d g = .ok ((), g) := by
  rw [within, if_neg (Nat.not_lt.2 h)]
  rfl

theorem within_of_lt {o : Options} {d : Nat} (h : o.maxDepth < d) :
    within o d g = .error (.malformed (.depth o.maxDepth)) := by
  rw [within, if_pos h]
  rfl

theorem pure_eq_ok {x y : α} : (pure x : Parse α) g = .ok (y, g') ↔ x = y ∧ g = g' := by
  change Except.ok (x, g) = Except.ok (y, g') ↔ _
  rw [Except.ok.injEq, Prod.mk.injEq]

theorem throw_ne_ok {e : GrammarError} {y : α} : (throw e : Parse α) g ≠ .ok (y, g') := by
  intro h
  cases h

theorem bind_eq_ok {p : Parse α} {f : α → Parse β} {y : β} :
    (p >>= f) g = .ok (y, g'') ↔ ∃ x g', p g = .ok (x, g') ∧ f x g' = .ok (y, g'') := StateT.bind_eq_ok

theorem liftM_eq_ok {x : Except GrammarError α} {y : α} :
    (liftM x : Parse α) g = .ok (y, g') ↔ x = .ok y ∧ g = g' := by
  constructor
  · intro h
    cases x with
    | error e => cases h
    | ok x => cases h; exact ⟨rfl, rfl⟩
  · rintro ⟨h, rfl⟩
    exact liftM_of_ok h

theorem ofMalformed_eq_ok {x : Except Malformed α} {y : α} :
    ofMalformed x g = .ok (y, g') ↔ x = .ok y ∧ g = g' := by
  rw [ofMalformed, liftM_eq_ok, Except.mapError_eq_ok]

theorem meet_eq_ok {f : Family} {c : String} {u : Unit} :
    meet f c g = .ok (u, g') ↔ g.meet f = .ok g' := by
  rw [meet]
  cases g.meet f <;> simp

theorem within_eq_ok {o : Options} {d : Nat} {u : Unit} :
    within o d g = .ok (u, g') ↔ d ≤ o.maxDepth ∧ g = g' := by
  constructor
  · intro h
    rw [within] at h
    split at h
    · exact (throw_ne_ok h).elim
    · rename_i hd
      exact ⟨Nat.not_lt.1 hd, (pure_eq_ok.1 h).2⟩
  · rintro ⟨hd, rfl⟩
    exact within_of_le hd

end Parse

def isLiteralItem : Value → Bool
  | .unset => false
  | .scalar s => s ≠ .string elseFail
  | .sequence _ => true
  | .mapping es => !hasReserved es

namespace Statement

mutual

/-- A value at a depth, met with one guard, reads as a statement and leaves another guard. -/
inductive Reads (o : Options) : Nat → Guard → Value → Statement → Guard → Prop
  | unset : d ≤ o.maxDepth → Reads o d g .unset (.leaf .unset) g
  | scalar : d ≤ o.maxDepth → Reads o d g (.scalar s) (.leaf (.scalar s)) g
  | sequence : d ≤ o.maxDepth → ReadsItems o d .empty g vs a g' → a.close = .ok ss →
      Reads o d g (.sequence vs) (.sequence ss) g'
  | single : d ≤ o.maxDepth → hasReserved es → ReadsClauses o d .empty g es a g' →
      a.close = .ok [s] → Reads o d g (.mapping es) s g'
  | clauses : d ≤ o.maxDepth → hasReserved es → ReadsClauses o d .empty g es a g' →
      a.close = .ok ss → ss.length ≠ 1 → Reads o d g (.mapping es) (.sequence ss) g'
  | literal : d ≤ o.maxDepth → hasReserved es = false → ReadsEntries o d g es fs g' →
      hasClauseEntries fs = false → Reads o d g (.mapping es) (.leaf (.mapping es)) g'
  | mapping : d ≤ o.maxDepth → hasReserved es = false → ReadsEntries o d g es fs g' →
      hasClauseEntries fs → Reads o d g (.mapping es) (.mapping fs) g'

inductive ReadsItems (o : Options) :
    Nat → Alternation → Guard → List Value → Alternation → Guard → Prop
  | nil : ReadsItems o d a g [] a g
  | fail : g.meet .archPair = .ok g₁ → a.branch .fail = .ok b → ReadsItems o d b g₁ vs c g' →
      ReadsItems o d a g (.string elseFail :: vs) c g'
  | literal : isLiteralItem v → Reads o (d + 1) g v t g₁ → a.literal t = .ok b →
      ReadsItems o d b g₁ vs c g' → ReadsItems o d a g (v :: vs) c g'
  | clauses : hasReserved es → ReadsClauses o (d + 1) a g es b g₁ → ReadsItems o d b g₁ vs c g' →
      ReadsItems o d a g (.mapping es :: vs) c g'

inductive ReadsClauses (o : Options) :
    Nat → Alternation → Guard → List (String × Value) → Alternation → Guard → Prop
  | nil : ReadsClauses o d a g [] a g
  | clause : classify k = .ok (.clause h) → g.meet h.kind.family = .ok g₁ →
      o.checkHead k h = .ok () → Reads o (d + 1) g₁ v s g₂ → a.clause h s = .ok b →
      ReadsClauses o d b g₂ es c g' → ReadsClauses o d a g ((k, v) :: es) c g'
  | fail : classify k = .ok .otherwise → isEmptyElse v → a.branch .fail = .ok b →
      ReadsClauses o d b g es c g' → ReadsClauses o d a g ((k, v) :: es) c g'
  | body : classify k = .ok .otherwise → isEmptyElse v = false → Reads o (d + 1) g v s g₁ →
      a.branch (.body s) = .ok b → ReadsClauses o d b g₁ es c g' →
      ReadsClauses o d a g ((k, v) :: es) c g'

inductive ReadsEntries (o : Options) :
    Nat → Guard → List (String × Value) → List (String × Statement) → Guard → Prop
  | nil : ReadsEntries o d g [] [] g
  | cons : Reads o (d + 1) g v s g₁ → ReadsEntries o d g₁ es fs g' →
      ReadsEntries o d g ((k, v) :: es) ((k, s) :: fs) g'

end

variable {o : Options}

mutual

theorem reads_of_parseValue : ∀ (v : Value) {d : Nat} {g : Guard} {t : Statement} {g' : Guard},
    parseValue o d v g = .ok (t, g') → Reads o d g v t g'
  | .unset, d, g, t, g', h => by
    simp only [parseValue, Parse.bind_eq_ok, Parse.within_eq_ok, Parse.pure_eq_ok] at h
    obtain ⟨_, _, ⟨hd, rfl⟩, rfl, rfl⟩ := h
    exact .unset hd
  | .scalar s, d, g, t, g', h => by
    simp only [parseValue, Parse.bind_eq_ok, Parse.within_eq_ok, Parse.pure_eq_ok] at h
    obtain ⟨_, _, ⟨hd, rfl⟩, rfl, rfl⟩ := h
    exact .scalar hd
  | .sequence vs, d, g, t, g', h => by
    simp only [parseValue, Parse.bind_eq_ok, Parse.within_eq_ok, Parse.ofMalformed_eq_ok,
      Parse.pure_eq_ok] at h
    obtain ⟨_, _, ⟨hd, rfl⟩, a, g₁, hi, ss, _, ⟨hc, rfl⟩, rfl, rfl⟩ := h
    exact .sequence hd (readsItems_of_parseItems vs hi) hc
  | .mapping es, d, g, t, g', h => by
    simp only [parseValue, Parse.bind_eq_ok, Parse.within_eq_ok] at h
    obtain ⟨_, _, ⟨hd, rfl⟩, h⟩ := h
    split at h
    · rename_i hr
      simp only [Parse.bind_eq_ok, Parse.ofMalformed_eq_ok] at h
      obtain ⟨a, g₁, hi, ss, _, ⟨hc, rfl⟩, h⟩ := h
      split at h
      · obtain ⟨rfl, rfl⟩ := Parse.pure_eq_ok.1 h
        exact .single hd hr (readsClauses_of_parseClauses es hi) hc
      · rename_i ss hne
        obtain ⟨rfl, rfl⟩ := Parse.pure_eq_ok.1 h
        refine .clauses hd hr (readsClauses_of_parseClauses es hi) hc ?_
        intro hl
        obtain ⟨s, rfl⟩ := List.length_eq_one_iff.1 hl
        exact hne s rfl
    · rename_i hr
      simp only [Parse.bind_eq_ok, Parse.pure_eq_ok] at h
      obtain ⟨fs, g₁, hi, rfl, rfl⟩ := h
      have hr : hasReserved es = false := by simpa using hr
      split
      · rename_i hc
        exact .mapping hd hr (readsEntries_of_parseEntries es hi) hc
      · rename_i hc
        exact .literal hd hr (readsEntries_of_parseEntries es hi) (by simpa using hc)

theorem readsItems_of_parseItems : ∀ (vs : List Value) {d : Nat} {a : Alternation} {g : Guard}
    {b : Alternation} {g' : Guard},
    parseItems o d a vs g = .ok (b, g') → ReadsItems o d a g vs b g'
  | [], d, a, g, b, g', h => by
    rw [parseItems] at h
    obtain ⟨rfl, rfl⟩ := Parse.pure_eq_ok.1 h
    exact .nil
  | .unset :: vs, d, a, g, b, g', h => by
    rw [parseItems] at h
    exact (Parse.throw_ne_ok h).elim
  | .scalar s :: vs, d, a, g, b, g', h => by
    by_cases hs : s = .string elseFail
    · subst hs
      rw [parseItems, if_pos rfl] at h
      simp only [Parse.bind_eq_ok, Parse.meet_eq_ok, Parse.ofMalformed_eq_ok] at h
      obtain ⟨_, g₁, hm, a₁, _, ⟨hb, rfl⟩, h⟩ := h
      exact .fail hm hb (readsItems_of_parseItems vs h)
    · rw [parseItems, if_neg hs] at h
      simp only [Parse.bind_eq_ok, Parse.ofMalformed_eq_ok] at h
      obtain ⟨t, g₁, ht, a₁, _, ⟨hl, rfl⟩, h⟩ := h
      exact .literal (by simpa [isLiteralItem] using hs) (reads_of_parseValue _ ht) hl
        (readsItems_of_parseItems vs h)
  | .sequence ws :: vs, d, a, g, b, g', h => by
    rw [parseItems] at h
    simp only [Parse.bind_eq_ok, Parse.ofMalformed_eq_ok] at h
    obtain ⟨t, g₁, ht, a₁, _, ⟨hl, rfl⟩, h⟩ := h
    exact .literal rfl (reads_of_parseValue _ ht) hl (readsItems_of_parseItems vs h)
  | .mapping es :: vs, d, a, g, b, g', h => by
    rw [parseItems] at h
    split at h
    · rename_i hr
      simp only [Parse.bind_eq_ok] at h
      obtain ⟨a₁, g₁, hc, h⟩ := h
      exact .clauses hr (readsClauses_of_parseClauses es hc) (readsItems_of_parseItems vs h)
    · rename_i hr
      simp only [Parse.bind_eq_ok, Parse.ofMalformed_eq_ok] at h
      obtain ⟨t, g₁, ht, a₁, _, ⟨hl, rfl⟩, h⟩ := h
      exact .literal (by simpa [isLiteralItem] using hr) (reads_of_parseValue _ ht) hl
        (readsItems_of_parseItems vs h)

theorem readsClauses_of_parseClauses : ∀ (es : List (String × Value)) {d : Nat} {a : Alternation}
    {g : Guard} {b : Alternation} {g' : Guard},
    parseClauses o d a es g = .ok (b, g') → ReadsClauses o d a g es b g'
  | [], d, a, g, b, g', h => by
    rw [parseClauses] at h
    obtain ⟨rfl, rfl⟩ := Parse.pure_eq_ok.1 h
    exact .nil
  | (k, v) :: es, d, a, g, b, g', h => by
    rw [parseClauses, Parse.bind_eq_ok] at h
    obtain ⟨key, _, hkey, h⟩ := h
    obtain ⟨hk, rfl⟩ := Parse.ofMalformed_eq_ok.1 hkey
    cases key with
    | clause c =>
      simp only [Parse.bind_eq_ok, Parse.meet_eq_ok, Parse.liftM_eq_ok, Parse.ofMalformed_eq_ok] at h
      obtain ⟨_, g₁, hm, _, _, ⟨ho, rfl⟩, s, g₂, hs, a₁, _, ⟨hc, rfl⟩, h⟩ := h
      exact .clause hk hm ho (reads_of_parseValue v hs) hc (readsClauses_of_parseClauses es h)
    | otherwise =>
      dsimp only at h
      split at h
      · rename_i he
        simp only [Parse.bind_eq_ok, Parse.ofMalformed_eq_ok] at h
        obtain ⟨a₁, _, ⟨hb, rfl⟩, h⟩ := h
        exact .fail hk he hb (readsClauses_of_parseClauses es h)
      · rename_i he
        simp only [Parse.bind_eq_ok, Parse.ofMalformed_eq_ok] at h
        obtain ⟨s, g₁, hs, a₁, _, ⟨hb, rfl⟩, h⟩ := h
        exact .body hk (by simpa using he) (reads_of_parseValue v hs) hb
          (readsClauses_of_parseClauses es h)
    | plain => exact (Parse.throw_ne_ok h).elim

theorem readsEntries_of_parseEntries : ∀ (es : List (String × Value)) {d : Nat} {g : Guard}
    {fs : List (String × Statement)} {g' : Guard},
    parseEntries o d es g = .ok (fs, g') → ReadsEntries o d g es fs g'
  | [], d, g, fs, g', h => by
    rw [parseEntries] at h
    obtain ⟨rfl, rfl⟩ := Parse.pure_eq_ok.1 h
    exact .nil
  | (k, v) :: es, d, g, fs, g', h => by
    simp only [parseEntries, Parse.bind_eq_ok, Parse.pure_eq_ok] at h
    obtain ⟨s, g₁, hs, fs, g₂, hes, rfl, rfl⟩ := h
    exact .cons (reads_of_parseValue v hs) (readsEntries_of_parseEntries es hes)

end

theorem parseItems_literal {v : Value} (h : isLiteralItem v) (d : Nat) (a : Alternation)
    (vs : List Value) :
    parseItems o d a (v :: vs) =
      (parseValue o (d + 1) v >>= fun t =>
        Parse.ofMalformed (a.literal t) >>= fun b => parseItems o d b vs) := by
  cases v with
  | unset => cases h
  | scalar s =>
    have hs : s ≠ .string elseFail := by simpa [isLiteralItem] using h
    rw [parseItems, if_neg hs]
  | sequence ws => rw [parseItems]
  | mapping es =>
    have hes : ¬ hasReserved es = true := by simpa [isLiteralItem] using h
    rw [parseItems, if_neg hes]

mutual

theorem Reads.parseValue_eq {d : Nat} {g : Guard} {v : Value} {t : Statement} {g' : Guard} :
    Reads o d g v t g' → parseValue o d v g = .ok (t, g')
  | .unset hd | .scalar hd => by
    rw [parseValue, Parse.bind_of_ok (Parse.within_of_le hd)]
    rfl
  | .sequence hd hi hc => by
    rw [parseValue, Parse.bind_of_ok (Parse.within_of_le hd), Parse.bind_of_ok hi.parseItems_eq,
      Parse.bind_of_ok (Parse.ofMalformed_of_ok hc)]
    rfl
  | .single hd hr hi hc => by
    rw [parseValue, Parse.bind_of_ok (Parse.within_of_le hd), if_pos hr,
      Parse.bind_of_ok hi.parseClauses_eq, Parse.bind_of_ok (Parse.ofMalformed_of_ok hc)]
    rfl
  | .clauses hd hr hi hc hl => by
    rw [parseValue, Parse.bind_of_ok (Parse.within_of_le hd), if_pos hr,
      Parse.bind_of_ok hi.parseClauses_eq, Parse.bind_of_ok (Parse.ofMalformed_of_ok hc)]
    split
    · exact (hl rfl).elim
    · rfl
  | .literal hd hr hi hc => by
    rw [parseValue, Parse.bind_of_ok (Parse.within_of_le hd), if_neg (by simp [hr]),
      Parse.bind_of_ok hi.parseEntries_eq, if_neg (by simp [hc])]
    rfl
  | .mapping hd hr hi hc => by
    rw [parseValue, Parse.bind_of_ok (Parse.within_of_le hd), if_neg (by simp [hr]),
      Parse.bind_of_ok hi.parseEntries_eq, if_pos hc]
    rfl

theorem ReadsItems.parseItems_eq {d : Nat} {a : Alternation} {g : Guard} {vs : List Value}
    {b : Alternation} {g' : Guard} : ReadsItems o d a g vs b g' → parseItems o d a vs g = .ok (b, g')
  | .nil => rfl
  | .fail hm hb hi => by
    rw [parseItems, if_pos rfl, Parse.bind_of_ok (Parse.meet_of_ok hm),
      Parse.bind_of_ok (Parse.ofMalformed_of_ok hb), hi.parseItems_eq]
  | .literal hv ht hl hi => by
    rw [parseItems_literal hv, Parse.bind_of_ok ht.parseValue_eq,
      Parse.bind_of_ok (Parse.ofMalformed_of_ok hl), hi.parseItems_eq]
  | .clauses hr hc hi => by
    rw [parseItems, if_pos hr, Parse.bind_of_ok hc.parseClauses_eq, hi.parseItems_eq]

theorem ReadsClauses.parseClauses_eq {d : Nat} {a : Alternation} {g : Guard}
    {es : List (String × Value)} {b : Alternation} {g' : Guard} :
    ReadsClauses o d a g es b g' → parseClauses o d a es g = .ok (b, g')
  | .nil => rfl
  | .clause hk hm ho hs hc hi => by
    rw [parseClauses, Parse.bind_of_ok (Parse.ofMalformed_of_ok hk)]
    dsimp only
    rw [Parse.bind_of_ok (Parse.meet_of_ok hm), Parse.bind_of_ok (Parse.liftM_of_ok ho),
      Parse.bind_of_ok hs.parseValue_eq, Parse.bind_of_ok (Parse.ofMalformed_of_ok hc),
      hi.parseClauses_eq]
  | .fail hk he hb hi => by
    rw [parseClauses, Parse.bind_of_ok (Parse.ofMalformed_of_ok hk)]
    dsimp only
    rw [if_pos he, Parse.bind_of_ok (Parse.ofMalformed_of_ok hb), hi.parseClauses_eq]
  | .body hk he hs hb hi => by
    rw [parseClauses, Parse.bind_of_ok (Parse.ofMalformed_of_ok hk)]
    dsimp only
    rw [if_neg (by simp [he]), Parse.bind_of_ok hs.parseValue_eq,
      Parse.bind_of_ok (Parse.ofMalformed_of_ok hb), hi.parseClauses_eq]

theorem ReadsEntries.parseEntries_eq {d : Nat} {g : Guard} {es : List (String × Value)}
    {fs : List (String × Statement)} {g' : Guard} :
    ReadsEntries o d g es fs g' → parseEntries o d es g = .ok (fs, g')
  | .nil => rfl
  | .cons hs hi => by
    rw [parseEntries, Parse.bind_of_ok hs.parseValue_eq, Parse.bind_of_ok hi.parseEntries_eq]
    rfl

end

theorem parse_eq_ok_iff {raw : Value} {t : Statement} :
    parse o raw = .ok t ↔ ∃ g, Reads o 0 o.variant.guard raw t g := by
  rw [parse, StateT.run']
  constructor
  · intro h
    cases hp : parseValue o 0 raw o.variant.guard with
    | error e =>
      rw [hp] at h
      cases h
    | ok r =>
      rw [hp] at h
      cases h
      exact ⟨r.2, reads_of_parseValue raw hp⟩
  · rintro ⟨g, h⟩
    rw [h.parseValue_eq]
    rfl

end Statement

end Recipe
