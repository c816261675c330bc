import Recipe.Proofs.Clause.Key
import Recipe.Proofs.Statement.Similar
import Recipe.Proofs.Statement.Variant

namespace Recipe

open Clause (Head classify elseFail)

inductive Alike {α β : Type} (A : α → β → Prop) : Except Malformed α → Except Malformed β → Prop
  | ok : A a b → Alike A (.ok a) (.ok b)
  | error : Alike A (.error m) (.error m)

theorem Alike.bind {α α' β β' : Type} {A : α → α' → Prop} {B : β → β' → Prop}
    {x : Except Malformed α} {x' : Except Malformed α'} {k : α → Except Malformed β}
    {k' : α' → Except Malformed β'} (h : Alike A x x') (hk : ∀ a a', A a a' → Alike B (k a) (k' a')) :
    Alike B (x >>= k) (x' >>= k') := by
  cases h with
  | ok ha => exact hk _ _ ha
  | error => exact .error

structure OpenClause.Similar (L : Leniency) (c c' : OpenClause) : Prop where
  head : c.head = c'.head
  tries : c.head = .attempt → L.tries
  body : Statement.Similar L c.body c'.body
  branches : Statement.SimilarBranches L c.branches c'.branches

structure Alternation.Similar (L : Leniency) (a b : Alternation) : Prop where
  statements : Statement.SimilarList L a.statements b.statements
  clause? : Option.Rel (OpenClause.Similar L) a.clause? b.clause?

namespace Alternation

open Statement (SimilarList SimilarBranches sameClause)

variable {L : Leniency} {a b : Alternation} {s t : Statement}

theorem any_sameClause_eq {ss ts : List Statement} (hs : s.head? = t.head?) (h : SimilarList L ss ts) :
    ss.any (·.sameClause s) = ts.any (·.sameClause t) := by
  induction ss generalizing ts with
  | nil =>
    cases h
    rfl
  | cons u us ih =>
    cases h with
    | cons hu hus => rw [List.any_cons, List.any_cons, ih hus, sameClause, sameClause, hs, hu.head?_eq]

theorem Similar.empty : Similar L Alternation.empty Alternation.empty := ⟨.nil, .none⟩

theorem Similar.close (h : Similar L a b) : Alike (SimilarList L) a.close b.close := by
  obtain ⟨ss, c?⟩ := a
  obtain ⟨ts, c'?⟩ := b
  obtain ⟨hs, hc⟩ := h
  cases hc with
  | none => exact .ok hs
  | some hc =>
    rename_i c c'
    obtain ⟨k, b, bs⟩ := c
    obtain ⟨k', b', bs'⟩ := c'
    obtain ⟨hk, ht, hb, hbs⟩ := hc
    dsimp only at hk ht hb hbs hs
    subst hk
    simp only [Alternation.close]
    rw [hbs.isEmpty_eq, any_sameClause_eq (s := .clause k b bs) (t := .clause k b' bs') rfl hs]
    split
    · exact .error
    · split
      · exact .error
      · exact .ok (hs.append (.cons (.clause ht hb hbs) .nil))

theorem Similar.literal (h : Similar L a b) (hs : Statement.Similar L s t) :
    Alike (Similar L) (a.literal s) (b.literal t) :=
  h.close.bind fun _ _ hss => .ok ⟨hss.append (.cons hs .nil), .none⟩

theorem Similar.clause {k : Head} (h : Similar L a b) (hk : k = .attempt → L.tries)
    (hs : Statement.Similar L s t) : Alike (Similar L) (a.clause k s) (b.clause k t) :=
  h.close.bind fun _ _ hss => .ok ⟨hss, .some ⟨rfl, hk, hs, .nil⟩⟩

theorem Similar.branch {br br' : Branch} (h : Similar L a b) (hb : SimilarBranches L [br] [br']) :
    Alike (Similar L) (a.branch br) (b.branch br') := by
  obtain ⟨ss, c?⟩ := a
  obtain ⟨ts, c'?⟩ := b
  obtain ⟨hs, hc⟩ := h
  cases hc with
  | none => exact .error
  | some hc => exact .ok ⟨hs, .some ⟨hc.head, hc.tries, hc.body, hc.branches.append hb⟩⟩

end Alternation

theorem Value.Similar.isEmptyElse_eq {v w : Value} (h : v.Similar w) : isEmptyElse v = isEmptyElse w := by
  cases h with
  | sequence h => cases h <;> rfl
  | unset | scalar | mapping => rfl

namespace Parse

variable {α α' β β' : Type} {L : Leniency} {A : α → α' → Prop} {B : β → β' → Prop}

/-- Two readers that differ as far as a leniency admits, from any guard they start at. Entries may be in
another order only where the family is given. -/
def Alike (L : Leniency) (A : α → α' → Prop) (p : Parse α) (q : Parse α') : Prop :=
  ∀ g, (L.unordered → ∃ f, g = .only f) →
    Outcome L.errors False (fun r r' => A r.1 r'.1 ∧ r.2 = r'.2 ∧ g.Becomes r.2) (p g) (q g)

theorem Alike.pure {a : α} {a' : α'} (h : A a a') : Alike L A (pure a) (pure a') :=
  fun _ _ => .ok ⟨h, rfl, .same⟩

theorem Alike.throw (e : GrammarError) : Alike L A (throw e) (throw e) :=
  fun _ _ => .error (L.of_similar _ _ .refl)

theorem Alike.bind {p : Parse α} {p' : Parse α'} {k : α → Parse β} {k' : α' → Parse β'}
    (h : Alike L A p p') (hk : ∀ a a', A a a' → Alike L B (k a) (k' a')) :
    Alike L B (p >>= k) (p' >>= k') := by
  intro g hg
  apply (h g hg).bind
  rintro ⟨a, g'⟩ ⟨a', _⟩ ⟨ha, rfl, hb⟩
  have hg' : L.unordered → ∃ f, g' = .only f := by
    intro hu
    obtain ⟨f, rfl⟩ := hg hu
    exact ⟨f, hb.eq_only⟩
  exact (hk a a' ha g' hg').imp fun _ _ h => ⟨h.1, h.2.1, hb.trans h.2.2⟩

theorem Alike.self {p : Parse α} (hp : ∀ g r, p g = .ok r → g.Becomes r.2) : Alike L Eq p p := by
  intro g _
  cases h : p g with
  | error e => exact .error (L.of_similar _ _ .refl)
  | ok r => exact .ok ⟨rfl, rfl, hp g r h⟩

theorem Alike.within (o : Options) (d : Nat) : Alike L Eq (within o d) (within o d) :=
  .self fun _ _ h => (within_eq_ok.1 h).2 ▸ .same

theorem Alike.meet (f : Family) (c : String) : Alike L Eq (meet f c) (meet f c) :=
  .self fun _ _ h => (Guard.of_meet (meet_eq_ok.1 h)).1

theorem Alike.liftM (x : Except GrammarError α) : Alike L Eq (liftM x) (liftM x) :=
  .self fun _ _ h => (liftM_eq_ok.1 h).2 ▸ .same

theorem Alike.ofMalformed {x : Except Malformed α} {y : Except Malformed α'} (h : Recipe.Alike A x y) :
    Alike L A (ofMalformed x) (ofMalformed y) := by
  cases h with
  | ok ha => exact .pure ha
  | error => exact .throw _

end Parse

namespace Statement

variable {o : Options} {L : Leniency}

def SimilarUnordered (L : Leniency) (es fs : List (String × Statement)) : Prop :=
  ∃ gs, SimilarEntries L es gs ∧ gs.Perm fs

theorem parseEntries_of_ok {d : Nat} {g : Guard} {k : String} {v : Value} {t : Statement}
    (h : parseValue o (d + 1) v g = .ok (t, g)) (es : List (String × Value)) :
    parseEntries o d ((k, v) :: es) g =
      (parseEntries o d es g).map fun r => ((k, t) :: r.1, r.2) := by
  rw [parseEntries, Parse.bind_of_ok h]
  cases he : parseEntries o d es g with
  | error e => exact Parse.bind_of_error he
  | ok r => exact Parse.bind_of_ok he

theorem parseEntries_of_error {d : Nat} {g : Guard} {k : String} {v : Value} {e : GrammarError}
    (h : parseValue o (d + 1) v g = .error e) (es : List (String × Value)) :
    parseEntries o d ((k, v) :: es) g = .error e := by
  rw [parseEntries, Parse.bind_of_error h]

theorem parseEntries_perm (d : Nat) (f : Family) {es fs : List (String × Value)} (h : es.Perm fs) :
    Outcome (fun _ _ => True) False (fun r r' => r.1.Perm r'.1 ∧ r.2 = r'.2)
      (parseEntries o d es (.only f)) (parseEntries o d fs (.only f)) := by
  -- with the family given every entry leaves the guard as it is, so entries do not see each other
  have hv (v : Value) : (∃ s, parseValue o (d + 1) v (.only f) = .ok (s, .only f)) ∨
      ∃ e, parseValue o (d + 1) v (.only f) = .error e := by
    cases hp : parseValue o (d + 1) v (.only f) with
    | error e => exact .inr ⟨e, rfl⟩
    | ok r =>
      obtain ⟨s, g⟩ := r
      obtain rfl := (reads_of_parseValue v hp).becomes.eq_only
      exact .inl ⟨s, rfl⟩
  induction h with
  | nil => exact .ok ⟨.nil, rfl⟩
  | cons e _ ih =>
    obtain ⟨k, v⟩ := e
    rcases hv v with ⟨s, hs⟩ | ⟨x, hx⟩
    · rw [parseEntries_of_ok hs, parseEntries_of_ok hs]
      exact ih.map fun _ _ h => ⟨h.1.cons (k, s), h.2⟩
    · rw [parseEntries_of_error hx, parseEntries_of_error hx]
      exact .error trivial
  | swap e e' es =>
    obtain ⟨k, v⟩ := e
    obtain ⟨k', v'⟩ := e'
    rcases hv v with ⟨s, hs⟩ | ⟨x, hx⟩
    · rcases hv v' with ⟨s', hs'⟩ | ⟨x', hx'⟩
      · rw [parseEntries_of_ok hs', parseEntries_of_ok hs, parseEntries_of_ok hs, parseEntries_of_ok hs']
        cases parseEntries o d es (.only f) with
        | error e => exact .error trivial
        | ok r => exact .ok ⟨.swap .., rfl⟩
      · rw [parseEntries_of_error hx', parseEntries_of_ok hs, parseEntries_of_error hx']
        exact .error trivial
    · rcases hv v' with ⟨s', hs'⟩ | ⟨x', hx'⟩
      · rw [parseEntries_of_ok hs', parseEntries_of_error hx, parseEntries_of_error hx]
        exact .error trivial
      · rw [parseEntries_of_error hx', parseEntries_of_error hx]
        exact .error trivial
  | trans _ _ ih ih' =>
    exact ih.trans ih' (fun _ _ => trivial) fun _ _ _ h h' => ⟨h.1.trans h'.1, h.2.trans h'.2⟩

mutual

theorem parseValue_alike {v w : Value} (d : Nat) :
    v.Reordered L w → Parse.Alike L (Similar L) (parseValue o d v) (parseValue o d w)
  | .plain hp h => by
    intro g _
    rw [parseValue_plain d g v hp, parseValue_plain d g w (h.plain_eq ▸ hp), h.nesting_eq, plainResult,
      plainResult]
    split
    · exact .ok ⟨similar_ofPlain h, rfl, .same⟩
    · exact .error (L.of_similar _ _ .refl)
  | .sequence h => by
    rw [parseValue, parseValue]
    apply (Parse.Alike.within o d).bind
    rintro _ _ rfl
    apply (parseItems_alike d .empty h).bind
    intro a b hab
    apply (Parse.Alike.ofMalformed hab.close).bind
    intro ss ts hss
    exact .pure (.sequence hss)
  | @Value.Reordered.mapping _ es fs ht h => by
    rw [parseValue, parseValue]
    apply (Parse.Alike.within o d).bind
    rintro _ _ rfl
    have hr : hasReserved es = hasReserved fs :=
      Value.SimilarUnordered.hasReserved_eq ⟨_, h.similar, .refl _⟩
    rw [hr]
    split
    · apply (parseClauses_alike d .empty ht h).bind
      intro a b hab
      apply (Parse.Alike.ofMalformed hab.close).bind
      intro ss ts hss
      cases hss with
      | nil => exact .pure (.sequence .nil)
      | cons hs hss =>
        cases hss with
        | nil => exact .pure hs
        | cons ht hss => exact .pure (.sequence (.cons hs (.cons ht hss)))
    · apply (parseEntries_alike d h).bind
      intro ss ts hss
      rw [hss.hasClause_eq]
      split
      · exact .pure (.mapping hss)
      · exact .pure (.leaf (.mapping h.similar (.refl fs)))
  | @Value.Reordered.unordered _ es _ fs hu hr h hp => by
    rw [parseValue, parseValue]
    apply (Parse.Alike.within o d).bind
    rintro _ _ rfl
    have hr' : hasReserved fs = false :=
      Value.SimilarUnordered.hasReserved_eq ⟨_, h.similar, hp⟩ ▸ hr
    rw [if_neg (by simp [hr]), if_neg (by simp [hr'])]
    apply Parse.Alike.bind (A := SimilarUnordered L)
    · intro g hg
      obtain ⟨f, rfl⟩ := hg hu
      apply (parseEntries_alike d h _ hg).trans (parseEntries_perm d f hp) (L.of_unordered hu)
      rintro ⟨ss, _⟩ ⟨ts, _⟩ ⟨us, _⟩ ⟨hs, rfl, hb⟩ ⟨hp, rfl⟩
      exact ⟨⟨ts, hs, hp⟩, rfl, hb⟩
    · rintro ss ts ⟨us, hs, hp'⟩
      rw [hs.hasClause_eq, hasClauseEntries_perm hp']
      split
      · exact .pure (.unordered hu hs hp')
      · exact .pure (.leaf (.mapping h.similar hp))

theorem parseItems_alike {vs ws : List Value} {a b : Alternation} (d : Nat) (hab : a.Similar L b) :
    Value.ReorderedList L vs ws →
      Parse.Alike L (Alternation.Similar L) (parseItems o d a vs) (parseItems o d b ws)
  | .nil => .pure hab
  | .cons (v := v) (w := w) hv hvs => by
    by_cases hl : isLiteralItem v
    · rw [parseItems_literal hl, parseItems_literal (hv.similar.isLiteralItem_eq ▸ hl)]
      apply (parseValue_alike (d + 1) hv).bind
      intro s t hs
      apply (Parse.Alike.ofMalformed (hab.literal hs)).bind
      intro a' b' hab'
      exact parseItems_alike d hab' hvs
    · cases v with
      | unset =>
        cases hv.similar
        exact .throw _
      | scalar s =>
        cases hv.similar
        obtain rfl : s = .string elseFail := by simpa [isLiteralItem] using hl
        rw [parseItems, parseItems, if_pos rfl, if_pos rfl]
        apply (Parse.Alike.meet _ _).bind
        rintro _ _ rfl
        apply (Parse.Alike.ofMalformed (hab.branch (.fail .nil))).bind
        intro a' b' hab'
        exact parseItems_alike d hab' hvs
      | sequence us => exact absurd rfl hl
      | mapping es =>
        have hr : hasReserved es := by simpa [isLiteralItem] using hl
        cases hv with
        | plain hp _ => simp [Value.plain, hr] at hp
        | unordered _ hn => simp [hn] at hr
        | mapping ht h =>
          have hr' := Value.SimilarUnordered.hasReserved_eq ⟨_, h.similar, .refl _⟩ ▸ hr
          rw [parseItems, parseItems, if_pos hr, if_pos hr']
          apply (parseClauses_alike (d + 1) hab ht h).bind
          intro a' b' hab'
          exact parseItems_alike d hab' hvs

theorem parseClauses_alike {es fs : List (String × Value)} {a b : Alternation} (d : Nat)
    (hab : a.Similar L b) (ht : Clause.tryWord ∈ Entries.keys es → L.tries) :
    Value.ReorderedEntries L es fs →
      Parse.Alike L (Alternation.Similar L) (parseClauses o d a es) (parseClauses o d b fs)
  | .nil => .pure hab
  | .cons (k := k) (v := v) (w := w) hv hes => by
    have ht' := fun h => ht (List.mem_cons_of_mem k h)
    rw [parseClauses, parseClauses]
    apply Parse.Alike.bind (A := fun x y => x = y ∧ classify k = .ok x)
    · apply Parse.Alike.ofMalformed
      cases classify k with
      | error m => exact .error
      | ok key => exact .ok ⟨rfl, rfl⟩
    · rintro key _ ⟨rfl, hk⟩
      cases key with
      | clause h =>
        apply (Parse.Alike.meet _ _).bind
        rintro _ _ rfl
        apply (Parse.Alike.liftM _).bind
        rintro _ _ rfl
        apply (parseValue_alike (d + 1) hv).bind
        intro s t hs
        have hh : h = .attempt → L.tries := by
          rintro rfl
          exact ht (Clause.eq_tryWord_of_classify hk ▸ List.mem_cons_self)
        apply (Parse.Alike.ofMalformed (hab.clause hh hs)).bind
        intro a' b' hab'
        exact parseClauses_alike d hab' ht' hes
      | otherwise =>
        dsimp only
        rw [hv.similar.isEmptyElse_eq]
        split
        · apply (Parse.Alike.ofMalformed (hab.branch (.fail .nil))).bind
          intro a' b' hab'
          exact parseClauses_alike d hab' ht' hes
        · apply (parseValue_alike (d + 1) hv).bind
          intro s t hs
          apply (Parse.Alike.ofMalformed (hab.branch (.body hs .nil))).bind
          intro a' b' hab'
          exact parseClauses_alike d hab' ht' hes
      | plain => exact .throw _

theorem parseEntries_alike {es fs : List (String × Value)} (d : Nat) :
    Value.ReorderedEntries L es fs →
      Parse.Alike L (SimilarEntries L) (parseEntries o d es) (parseEntries o d fs)
  | .nil => .pure .nil
  | .cons hv hes => by
    rw [parseEntries, parseEntries]
    apply (parseValue_alike (d + 1) hv).bind
    intro s t hs
    apply (parseEntries_alike d hes).bind
    intro ss ts hss
    exact .pure (.cons hs hss)

end

theorem parse_eq_ok_iff_exists_only {raw : Value} {t : Statement} : parse o raw = .ok t ↔
    ∃ f, o.variant.guard.Allows f ∧ parseValue o 0 raw (.only f) = .ok (t, .only f) := by
  rw [parse_eq_ok_iff, reads_iff_exists_only]
  constructor
  · rintro ⟨f, hf, h⟩
    exact ⟨f, hf, h.parseValue_eq⟩
  · rintro ⟨f, hf, h⟩
    exact ⟨f, hf, reads_of_parseValue raw h⟩

theorem parse_alike {v w : Value} (h : v.Reordered L w) :
    Outcome L.errors False (Similar L) (parse o v) (parse o w) := by
  by_cases hu : L.unordered
  · have hp (f : Family) := parseValue_alike (o := o) 0 h (.only f) fun _ => ⟨f, rfl⟩
    cases hv : parse o v with
    | ok t =>
      obtain ⟨f, hf, hv⟩ := parse_eq_ok_iff_exists_only.1 hv
      have hp := hp f
      rw [hv] at hp
      obtain ⟨⟨t', _⟩, hw, ht, rfl, -⟩ := hp.exists_ok
      rw [parse_eq_ok_iff_exists_only.2 ⟨f, hf, hw⟩]
      exact .ok ht
    | error e =>
      cases hw : parse o w with
      | ok t =>
        obtain ⟨f, hf, hw⟩ := parse_eq_ok_iff_exists_only.1 hw
        have hp := hp f
        rw [hw] at hp
        obtain ⟨⟨t', _⟩, hv', -, rfl, -⟩ := hp.exists_ok_left
        rw [parse_eq_ok_iff_exists_only.2 ⟨f, hf, hv'⟩] at hv
        cases hv
      | error e' => exact .error (L.of_unordered hu e e')
  · have hp := parseValue_alike (o := o) 0 h o.variant.guard fun h => absurd h hu
    exact hp.map fun _ _ h => h.1

end Statement

end Recipe
