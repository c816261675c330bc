import Mathlib
import Recipe.Proofs.Statement.Grammar
import Recipe.Proofs.Statement.Refusal

namespace Recipe

theorem Parse.within_eq {o : Options} {d : Nat} (h : d ≤ o.maxDepth) : Parse.within o d = pure () := by
  rw [within, if_neg (Nat.not_lt.2 h)]

namespace Alternation

def Fits (o : Options) (d : Nat) (a : Alternation) : Prop := a.clause?.isSome → d ≤ o.maxDepth

theorem fits_of_le {o : Options} {d : Nat} (a : Alternation) (h : d ≤ o.maxDepth) : a.Fits o d := fun _ => h

theorem fits_of_literal {o : Options} {d : Nat} {a b : Alternation} {t : Statement}
    (h : a.literal t = .ok b) : b.Fits o d := by
  obtain ⟨ss, -, rfl⟩ := literal_eq_ok.1 h
  intro hs
  cases hs

theorem fits_empty {o : Options} {d : Nat} : empty.Fits o d := by
  intro hs
  cases hs

end Alternation

namespace Statement

open Alternation

variable {o o' : Options}

mutual

theorem Reads.nesting_le {d : Nat} {g : Guard} {v : Value} {t : Statement} {g' : Guard} :
    Reads o d g v t g' → d + v.nesting ≤ o.maxDepth
  | .unset hd | .scalar hd => hd
  | .sequence hd hi _ => hi.nesting_le hd fits_empty
  | .single hd _ hi _ | .clauses hd _ hi _ _ => by
    have h := (hi.nesting_le fits_empty).1
    rwa [Nat.max_eq_right hd] at h
  | .literal hd _ hi _ | .mapping hd _ hi _ => hi.nesting_le hd

theorem ReadsItems.nesting_le {d : Nat} {a : Alternation} {g : Guard} {vs : List Value}
    {b : Alternation} {g' : Guard} : ReadsItems o d a g vs b g' → d ≤ o.maxDepth → a.Fits o (d + 2) →
      d + Value.nestingList vs ≤ o.maxDepth
  | .nil, hd, _ => hd
  | .fail _ hb hi, hd, ha => by
    have hf := ha (isSome_of_branch hb).1
    have h := hi.nesting_le hd (fits_of_le _ hf)
    rw [Value.nestingList, Value.nesting]
    omega
  | .literal _ ht hl hi, hd, _ => by
    have h := ht.nesting_le
    have hs := hi.nesting_le hd (fits_of_literal hl)
    rw [Value.nestingList]
    omega
  | .clauses hr hc hi, hd, ha => by
    obtain ⟨h, hf⟩ := hc.nesting_le ha
    have hs := hi.nesting_le hd hf
    have hf := hf (hc.isSome (.inl (hasReserved_ne_nil hr)))
    rw [Value.nestingList, Value.nesting]
    omega

theorem ReadsClauses.nesting_le {d : Nat} {a : Alternation} {g : Guard} {es : List (String × Value)}
    {b : Alternation} {g' : Guard} : ReadsClauses o d a g es b g' → a.Fits o (d + 1) →
      d + Value.nestingEntries es ≤ max d o.maxDepth ∧ b.Fits o (d + 1)
  | .nil, ha => ⟨Nat.le_max_left .., ha⟩
  | .clause _ _ _ hs _ hi, _ | .body _ _ hs _ hi, _ => by
    have h := hs.nesting_le
    obtain ⟨hes, hf⟩ := hi.nesting_le (fits_of_le _ (by omega))
    refine ⟨?_, hf⟩
    rw [Value.nestingEntries]
    omega
  | .fail (v := v) _ he hb hi, ha => by
    have h := ha (isSome_of_branch hb).1
    obtain ⟨hes, hf⟩ := hi.nesting_le (fits_of_le _ h)
    refine ⟨?_, hf⟩
    have hv : v.nesting = 0 := by rcases isEmptyElse_iff.1 he with rfl | rfl <;> rfl
    rw [Value.nestingEntries, hv]
    omega

theorem ReadsEntries.nesting_le {d : Nat} {g : Guard} {es : List (String × Value)}
    {fs : List (String × Statement)} {g' : Guard} : ReadsEntries o d g es fs g' → d ≤ o.maxDepth →
      d + Value.nestingEntries es ≤ o.maxDepth
  | .nil, hd => hd
  | .cons hs hi, hd => by
    have h := hs.nesting_le
    have hes := hi.nesting_le hd
    rw [Value.nestingEntries]
    omega

end

mutual

theorem parseValue_depth (hc : o.checkHead = o'.checkHead) {d d' : Nat} : ∀ v : Value,
    d + v.nesting ≤ o.maxDepth → d' + v.nesting ≤ o'.maxDepth → parseValue o d v = parseValue o' d' v
  | .unset, h, h' | .scalar s, h, h' => by
    rw [Value.nesting] at h h'
    rw [parseValue, parseValue, Parse.within_eq (by omega), Parse.within_eq (by omega)]
  | .sequence vs, h, h' => by
    rw [Value.nesting] at h h'
    rw [parseValue, parseValue, Parse.within_eq (by omega), Parse.within_eq (by omega),
      parseItems_depth hc .empty vs h h']
  | .mapping es, h, h' => by
    rw [Value.nesting] at h h'
    rw [parseValue, parseValue, Parse.within_eq (by omega), Parse.within_eq (by omega),
      parseClauses_depth hc .empty es h h', parseEntries_depth hc es h h']

theorem parseItems_depth (hc : o.checkHead = o'.checkHead) {d d' : Nat} (a : Alternation) :
    ∀ vs : List Value, d + Value.nestingList vs ≤ o.maxDepth → d' + Value.nestingList vs ≤ o'.maxDepth →
      parseItems o d a vs = parseItems o' d' a vs
  | [], _, _ => by rw [parseItems, parseItems]
  | v :: vs, h, h' => by
    rw [Value.nestingList] at h h'
    have hv : parseValue o (d + 1) v = parseValue o' (d' + 1) v :=
      parseValue_depth hc v (by omega) (by omega)
    have hvs (b : Alternation) : parseItems o d b vs = parseItems o' d' b vs :=
      parseItems_depth hc b vs (by omega) (by omega)
    cases v with
    | unset => rw [parseItems, parseItems]
    | scalar | sequence => simp only [parseItems, hv, hvs]
    | mapping es =>
      rw [Value.nesting] at h h'
      have hes : parseClauses o (d + 1) a es = parseClauses o' (d' + 1) a es :=
        parseClauses_depth hc a es (by omega) (by omega)
      simp only [parseItems, hv, hes, hvs]

theorem parseClauses_depth (hc : o.checkHead = o'.checkHead) {d d' : Nat} (a : Alternation) :
    ∀ es : List (String × Value), d + Value.nestingEntries es ≤ o.maxDepth →
      d' + Value.nestingEntries es ≤ o'.maxDepth → parseClauses o d a es = parseClauses o' d' a es
  | [], _, _ => by rw [parseClauses, parseClauses]
  | (k, v) :: es, h, h' => by
    rw [Value.nestingEntries] at h h'
    have hv : parseValue o (d + 1) v = parseValue o' (d' + 1) v :=
      parseValue_depth hc v (by omega) (by omega)
    have hes (b : Alternation) : parseClauses o d b es = parseClauses o' d' b es :=
      parseClauses_depth hc b es (by omega) (by omega)
    simp only [parseClauses, hc, hv, hes]

theorem parseEntries_depth (hc : o.checkHead = o'.checkHead) {d d' : Nat} :
    ∀ es : List (String × Value), d + Value.nestingEntries es ≤ o.maxDepth →
      d' + Value.nestingEntries es ≤ o'.maxDepth → parseEntries o d es = parseEntries o' d' es
  | [], _, _ => by rw [parseEntries, parseEntries]
  | (k, v) :: es, h, h' => by
    rw [Value.nestingEntries] at h h'
    have hv : parseValue o (d + 1) v = parseValue o' (d' + 1) v :=
      parseValue_depth hc v (by omega) (by omega)
    have hes : parseEntries o d es = parseEntries o' d' es :=
      parseEntries_depth hc es (by omega) (by omega)
    simp only [parseEntries, hv, hes]

end

theorem Reads.within {d d' : Nat} {g : Guard} {v : Value} {t : Statement} {g' : Guard}
    (h : Reads o d g v t g') (hc : o.checkHead = o'.checkHead) (hd : d' + v.nesting ≤ o'.maxDepth) :
    Reads o' d' g v t g' := by
  apply reads_of_parseValue
  rw [← parseValue_depth hc v h.nesting_le hd, h.parseValue_eq]

theorem nesting_le_of_parse {raw : Value} {t : Statement} (h : parse o raw = .ok t) :
    raw.nesting ≤ o.maxDepth := by
  obtain ⟨g, hr⟩ := parse_eq_ok_iff.1 h
  simpa using hr.nesting_le

theorem parse_within {raw : Value} {d n : Nat} (hd : raw.nesting ≤ d) (hn : raw.nesting ≤ n) :
    parse { o with maxDepth := d } raw = parse { o with maxDepth := n } raw := by
  have h : parseValue { o with maxDepth := d } 0 raw = parseValue { o with maxDepth := n } 0 raw := by
    apply parseValue_depth
    · rfl
    · rwa [Nat.zero_add]
    · rwa [Nat.zero_add]
  rw [parse, parse, h]

theorem depth_of_parse {raw : Value} {m : Nat} (h : parse o raw = .error (.malformed (.depth m))) :
    m = o.maxDepth ∧ o.maxDepth < raw.nesting := refusal_of_parse h

/-- The depth limit is exact: a recipe is accepted if and only if it is no deeper than the limit and is
accepted with any other limit that it is within, as the same tree. Such limits differ in no error either, and
a recipe is refused for its depth only where it is deeper than the limit. -/
theorem parse_maxDepth (o : Options) (raw : Value) (d : Nat) :
    (∀ n, raw.nesting ≤ n →
      (∀ t, parse { o with maxDepth := d } raw = .ok t ↔
        raw.nesting ≤ d ∧ parse { o with maxDepth := n } raw = .ok t) ∧
      (raw.nesting ≤ d → parse { o with maxDepth := d } raw = parse { o with maxDepth := n } raw)) ∧
    ∀ m, parse { o with maxDepth := d } raw = .error (.malformed (.depth m)) → m = d ∧ d < raw.nesting := by
  refine ⟨?_, fun m => depth_of_parse⟩
  intro n hn
  refine ⟨?_, fun hd => parse_within hd hn⟩
  intro t
  constructor
  · intro h
    have hd := nesting_le_of_parse h
    exact ⟨hd, parse_within hd hn ▸ h⟩
  · rintro ⟨hd, h⟩
    rwa [parse_within hd hn]

def nestedRecipe : Value :=
  .sequence [.mapping [("on amd64", .sequence [.string "gcc"])], .string "else fail",
    .mapping [("k", .mapping [("try", .integer 1), ("else", .sequence [])])]]

def nestedTree : Statement :=
  .sequence [.clause (.host (.ofList ["amd64"])) (.sequence [.leaf (.string "gcc")]) [.fail],
    .mapping [("k", .clause .attempt (.leaf (.integer 1)) [.fail])]]

theorem parse_maxDepth_nested :
    nestedRecipe.nesting ≤ 64 ∧ parse { maxDepth := 64 } nestedRecipe = .ok nestedTree ∧
      parse { maxDepth := 3 } nestedRecipe = .ok nestedTree ∧
      (∀ t, parse { maxDepth := 2 } nestedRecipe ≠ .ok t) ∧
      ∀ m, parse { maxDepth := 3 } nestedRecipe ≠ .error (.malformed (.depth m)) := by
  have hn : nestedRecipe.nesting ≤ 64 := by decide
  have hp : parse { maxDepth := 64 } nestedRecipe = .ok nestedTree := by cbv
  refine ⟨hn, hp, ?_, ?_, ?_⟩
  · exact (((parse_maxDepth {} nestedRecipe 3).1 64 hn).1 nestedTree).2 ⟨by decide, hp⟩
  · intro t ht
    have h := (((parse_maxDepth {} nestedRecipe 2).1 64 hn).1 t).1 ht
    exact absurd h.1 (by decide)
  · intro m hm
    have h := (parse_maxDepth {} nestedRecipe 3).2 m hm
    exact absurd h.2 (by decide)

end Statement

end Recipe
