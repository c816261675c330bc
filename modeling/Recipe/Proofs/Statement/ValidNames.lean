import Mathlib
import Recipe.Proofs.Statement.Family

namespace Recipe

open Clause (Head Kind)

theorem le_of_find?_eq_some {ss : List String} {p : String → Bool} {s t : String}
    (hs : ss.Pairwise (· < ·)) (h : ss.find? p = some s) (ht : t ∈ ss) (hp : p t) : s ≤ t := by
  obtain ⟨-, before, after, rfl, hb⟩ := List.find?_eq_some_iff_append.1 h
  rcases List.mem_append.1 ht with ht | ht
  · have hn := hb t ht
    rw [hp] at hn
    cases hn
  · rcases List.mem_cons.1 ht with rfl | ht
    · exact String.le_refl _
    · exact Std.le_of_lt ((List.pairwise_cons.1 (List.pairwise_append.1 hs).2.1).1 t ht)

def Clause.Head.sets : Head → List (Kind × Selectors)
  | .host ss => [(.host, ss)]
  | .target ss => [(.target, ss)]
  | .hostTarget ss ts => [(.hostTarget, ss), (.hostTarget, ts)]
  | .platform ss => [(.platform, ss)]
  | .attempt => []

namespace Options

variable {o : Options} {key : String} {k : Kind} {ss : Selectors} {s : String} {e : GrammarError}

def unlimited (o : Options) : Options := { o with architectures := none, platforms := none }

def Unknown (o : Options) (k : Kind) (s : String) : Prop :=
  s ≠ Selectors.other ∧ s ≠ Selectors.any ∧ ∃ valid, o.valid? k = some valid ∧ s ∉ valid

def unknown? (o : Options) (k : Kind) (ss : Selectors) : Option String :=
  (o.valid? k).bind fun valid => ss.named.find? (· ∉ valid)

theorem unknown?_eq_none : o.unknown? k ss = none ↔ ∀ s ∈ ss, ¬ o.Unknown k s := by
  rw [unknown?, Option.bind_eq_none_iff]
  constructor
  · rintro h s hs ⟨ho, ha, valid, hv, hn⟩
    have hf := List.find?_eq_none.1 (h valid hv) s (List.mem_filter.2 ⟨hs, by simp [ho, ha]⟩)
    exact hf (decide_eq_true hn)
  · intro h valid hv
    rw [List.find?_eq_none]
    intro s hs hn
    obtain ⟨hs, hw⟩ := List.mem_filter.1 hs
    rw [decide_eq_true_iff] at hn hw
    exact h s hs ⟨hw.1, hw.2, valid, hv, hn⟩

theorem least_of_unknown? (h : o.unknown? k ss = some s) :
    s ∈ ss ∧ o.Unknown k s ∧ ∀ s' ∈ ss, o.Unknown k s' → s ≤ s' := by
  obtain ⟨valid, hv, hf⟩ := Option.bind_eq_some_iff.1 h
  have hn := List.find?_some hf
  obtain ⟨hm, hw⟩ := List.mem_filter.1 (List.mem_of_find?_eq_some hf)
  rw [decide_eq_true_iff] at hn hw
  refine ⟨hm, ⟨hw.1, hw.2, valid, hv, hn⟩, ?_⟩
  rintro s' hm' ⟨ho', ha', valid', hv', hn'⟩
  obtain rfl : valid' = valid := Option.some.inj (hv'.symm.trans hv)
  apply le_of_find?_eq_some (ss.sorted.filter _) hf _ (decide_eq_true hn')
  exact List.mem_filter.2 ⟨hm', decide_eq_true ⟨ho', ha'⟩⟩

def firstUnknown? (o : Options) (hs : List Head) : Option GrammarError :=
  (hs.flatMap Head.sets).findSome? fun x => (o.unknown? x.1 x.2).map (.unknownSelector · x.1)

theorem firstUnknown?_append (hs hs' : List Head) :
    o.firstUnknown? (hs ++ hs') = (o.firstUnknown? hs).or (o.firstUnknown? hs') := by
  rw [firstUnknown?, List.flatMap_append, List.findSome?_append]
  rfl

/-- The outcome where nothing but an unknown token in the heads is in the way. -/
def allow (o : Options) (hs : List Head) (x : α) : Except GrammarError α :=
  match o.firstUnknown? hs with
  | none => .ok x
  | some e => .error e

theorem allow_eq_ok {hs : List Head} {x y : α} :
    o.allow hs x = .ok y ↔ x = y ∧ ∀ z ∈ hs.flatMap Head.sets, ∀ s ∈ z.2, ¬ o.Unknown z.1 s := by
  have hr : o.firstUnknown? hs = none ↔ ∀ z ∈ hs.flatMap Head.sets, ∀ s ∈ z.2, ¬ o.Unknown z.1 s := by
    simp only [firstUnknown?, List.findSome?_eq_none_iff, Option.map_eq_none_iff, unknown?_eq_none]
  rw [allow, ← hr]
  cases o.firstUnknown? hs <;> simp

theorem of_allow_eq_error {hs : List Head} {x : α} (h : o.allow hs x = .error e) :
    ∃ before k ss after s, hs.flatMap Head.sets = before ++ (k, ss) :: after ∧
      (∀ z ∈ before, ∀ s ∈ z.2, ¬ o.Unknown z.1 s) ∧ s ∈ ss ∧ o.Unknown k s ∧
        (∀ s' ∈ ss, o.Unknown k s' → s ≤ s') ∧ e = .unknownSelector s k := by
  rw [allow] at h
  split at h
  · cases h
  · rename_i hr
    cases h
    obtain ⟨before, ⟨k, ss⟩, after, hs, hk, hb⟩ := List.findSome?_eq_some_iff.1 hr
    obtain ⟨s, hs', rfl⟩ := Option.map_eq_some_iff.1 hk
    obtain ⟨hm, hu, hl⟩ := least_of_unknown? hs'
    refine ⟨before, k, ss, after, s, hs, ?_, hm, hu, hl, rfl⟩
    intro z hz
    exact unknown?_eq_none.1 (Option.map_eq_none_iff.1 (hb z hz))

theorem checkSelectors_of_unlimited (h : o.unlimited.checkSelectors key k ss = .ok ()) :
    o.checkSelectors key k ss = match o.unknown? k ss with
      | some s => .error (.unknownSelector s k)
      | none => .ok () := by
  rw [checkSelectors] at h ⊢
  split at h
  · cases h
  · rename_i ha
    rw [if_neg ha]
    split at h
    · cases h
    · rename_i ho
      rw [if_neg ho]
      rfl

theorem checkHead_of_unlimited {h : Head} (hc : o.unlimited.checkHead key h = .ok ()) :
    o.checkHead key h = o.allow [h] () := by
  cases h with
  | host ss | target ss | platform ss =>
    rw [checkHead, checkSelectors_of_unlimited hc]
    simp only [allow, firstUnknown?, List.flatMap_singleton, Head.sets, List.findSome?_singleton]
    cases o.unknown? _ ss <;> rfl
  | hostTarget ss ts =>
    obtain ⟨_, hs, ht⟩ := Except.bind_eq_ok.1 hc
    rw [checkHead, checkSelectors_of_unlimited hs, checkSelectors_of_unlimited ht]
    simp only [allow, firstUnknown?, List.flatMap_singleton, Head.sets, List.findSome?_cons,
      List.findSome?_nil]
    cases o.unknown? .hostTarget ss <;> cases o.unknown? .hostTarget ts <;> rfl
  | attempt => rfl

theorem checkSelectors_unlimited (h : o.checkSelectors key k ss = .ok ()) :
    o.unlimited.checkSelectors key k ss = .ok () := by
  rw [checkSelectors] at h ⊢
  split at h
  · cases h
  · rename_i ha
    rw [if_neg ha]
    split at h
    · cases h
    · rename_i ho
      rw [if_neg ho]
      cases k <;> rfl

theorem checkHead_unlimited {h : Head} (hc : o.checkHead key h = .ok ()) :
    o.unlimited.checkHead key h = .ok () := by
  cases h with
  | host ss | target ss | platform ss => exact checkSelectors_unlimited hc
  | hostTarget ss ts =>
    obtain ⟨_, hs, ht⟩ := Except.bind_eq_ok.1 hc
    exact Except.bind_eq_ok.2 ⟨(), checkSelectors_unlimited hs, checkSelectors_unlimited ht⟩
  | attempt => rfl

end Options

namespace Parse

variable {o : Options} {α β : Type} {g g₁ : Guard} {hs hs' : List Head} {x : α}

theorem within_of_unlimited {d : Nat} (h : d ≤ o.unlimited.maxDepth) : within o d g = .ok ((), g) :=
  within_of_le h

theorem liftM_allow : (liftM (o.allow hs x) : Parse α) g = o.allow hs (x, g) := by
  rw [Options.allow, Options.allow]
  cases o.firstUnknown? hs <;> rfl

theorem bind_of_allow {p : Parse α} {f : α → Parse β} {r : β × Guard} (hp : p g = o.allow hs (x, g₁))
    (hf : f x g₁ = o.allow hs' r) : (p >>= f) g = o.allow (hs ++ hs') r := by
  rw [Options.allow] at hp hf ⊢
  rw [Options.firstUnknown?_append]
  cases hr : o.firstUnknown? hs with
  | none =>
    rw [hr] at hp
    rw [bind_of_ok hp, hf]
    rfl
  | some e =>
    rw [hr] at hp
    rw [bind_of_error hp]
    rfl

theorem bind_of_allow_of_ok {p : Parse α} {f : α → Parse β} {r : β × Guard}
    (hp : p g = o.allow hs (x, g₁)) (hf : f x g₁ = .ok r) : (p >>= f) g = o.allow hs r := by
  have h : f x g₁ = o.allow [] r := hf
  rw [bind_of_allow hp h, List.append_nil]

end Parse

namespace Statement

open Alternation

variable {o : Options}

mutual

theorem Reads.parseValue_allow {d : Nat} {g : Guard} {v : Value} {t : Statement} {g' : Guard} :
    Reads o.unlimited d g v t g' → parseValue o d v g = o.allow t.allHeads (t, g')
  | .unset hd | .scalar hd => by
    rw [parseValue, Parse.bind_of_ok (Parse.within_of_unlimited hd)]
    rfl
  | .sequence hd hi hc => by
    obtain ⟨hs, hb, hi⟩ := hi.parseItems_allow
    rw [parseValue, Parse.bind_of_ok (Parse.within_of_unlimited hd), allHeads, allHeads_of_close hc, hb]
    apply Parse.bind_of_allow_of_ok hi
    rw [Parse.bind_of_ok (Parse.ofMalformed_of_ok hc)]
    rfl
  | .single hd hr hi hc => by
    obtain ⟨hs, hb, hi⟩ := hi.parseClauses_allow
    have ht := allHeads_of_close hc
    rw [allHeadsList, allHeadsList, List.append_nil, hb] at ht
    rw [parseValue, Parse.bind_of_ok (Parse.within_of_unlimited hd), if_pos hr, ht]
    apply Parse.bind_of_allow_of_ok hi
    rw [Parse.bind_of_ok (Parse.ofMalformed_of_ok hc)]
    rfl
  | .clauses hd hr hi hc hl => by
    obtain ⟨hs, hb, hi⟩ := hi.parseClauses_allow
    rw [parseValue, Parse.bind_of_ok (Parse.within_of_unlimited hd), if_pos hr, allHeads, allHeads_of_close hc, hb]
    apply Parse.bind_of_allow_of_ok hi
    rw [Parse.bind_of_ok (Parse.ofMalformed_of_ok hc)]
    split
    · exact (hl rfl).elim
    · rfl
  | .literal hd hr hi hc => by
    have h := hi.parseEntries_allow
    rw [(allHeadsEntries_eq_nil _).2 hc] at h
    rw [parseValue, Parse.bind_of_ok (Parse.within_of_unlimited hd), if_neg (by simp [hr])]
    apply Parse.bind_of_allow_of_ok h
    rw [if_neg (by simp [hc])]
    rfl
  | .mapping hd hr hi hc => by
    rw [parseValue, Parse.bind_of_ok (Parse.within_of_unlimited hd), if_neg (by simp [hr])]
    apply Parse.bind_of_allow_of_ok hi.parseEntries_allow
    rw [if_pos hc]
    rfl

theorem ReadsItems.parseItems_allow {d : Nat} {a : Alternation} {g : Guard} {vs : List Value}
    {b : Alternation} {g' : Guard} : ReadsItems o.unlimited d a g vs b g' →
      ∃ hs, b.allHeads = a.allHeads ++ hs ∧ parseItems o d a vs g = o.allow hs (b, g')
  | .nil => ⟨[], (List.append_nil _).symm, rfl⟩
  | .fail hm hb hi => by
    obtain ⟨hs, hc, hi⟩ := hi.parseItems_allow
    refine ⟨hs, ?_, ?_⟩
    · rw [hc, allHeads_of_branch hb, List.append_assoc]
      rfl
    · rw [parseItems, if_pos rfl, Parse.bind_of_ok (Parse.meet_of_ok hm),
        Parse.bind_of_ok (Parse.ofMalformed_of_ok hb), hi]
  | .literal (t := t) hv ht hl hi => by
    obtain ⟨hs, hc, hi⟩ := hi.parseItems_allow
    refine ⟨t.allHeads ++ hs, ?_, ?_⟩
    · rw [hc, allHeads_of_literal hl, List.append_assoc]
    · rw [parseItems_literal hv]
      apply Parse.bind_of_allow ht.parseValue_allow
      rw [Parse.bind_of_ok (Parse.ofMalformed_of_ok hl), hi]
  | .clauses hr hc hi => by
    obtain ⟨hs, hb, hc⟩ := hc.parseClauses_allow
    obtain ⟨hs', hb', hi⟩ := hi.parseItems_allow
    refine ⟨hs ++ hs', ?_, ?_⟩
    · rw [hb', hb, List.append_assoc]
    · rw [parseItems, if_pos hr]
      exact Parse.bind_of_allow hc hi

theorem ReadsClauses.parseClauses_allow {d : Nat} {a : Alternation} {g : Guard}
    {es : List (String × Value)} {b : Alternation} {g' : Guard} : ReadsClauses o.unlimited d a g es b g' →
      ∃ hs, b.allHeads = a.allHeads ++ hs ∧ parseClauses o d a es g = o.allow hs (b, g')
  | .nil => ⟨[], (List.append_nil _).symm, rfl⟩
  | .clause (h := h) (s := s) hk hm ho hs hc hi => by
    obtain ⟨hs', hb, hi⟩ := hi.parseClauses_allow
    refine ⟨[h] ++ (s.allHeads ++ hs'), ?_, ?_⟩
    · rw [hb, allHeads_of_clause hc, List.append_assoc]
      rfl
    · rw [parseClauses, Parse.bind_of_ok (Parse.ofMalformed_of_ok hk)]
      dsimp only
      rw [Parse.bind_of_ok (Parse.meet_of_ok hm), Options.checkHead_of_unlimited ho]
      -- the head is checked before its body is read, and the body before the entries that follow
      apply Parse.bind_of_allow Parse.liftM_allow
      apply Parse.bind_of_allow hs.parseValue_allow
      rw [Parse.bind_of_ok (Parse.ofMalformed_of_ok hc), hi]
  | .fail hk he hb hi => by
    obtain ⟨hs, hc, hi⟩ := hi.parseClauses_allow
    refine ⟨hs, ?_, ?_⟩
    · rw [hc, allHeads_of_branch hb, List.append_assoc]
      rfl
    · rw [parseClauses, Parse.bind_of_ok (Parse.ofMalformed_of_ok hk)]
      dsimp only
      rw [if_pos he, Parse.bind_of_ok (Parse.ofMalformed_of_ok hb), hi]
  | .body (s := s) hk he hs hb hi => by
    obtain ⟨hs', hc, hi⟩ := hi.parseClauses_allow
    refine ⟨s.allHeads ++ hs', ?_, ?_⟩
    · rw [hc, allHeads_of_branch hb, allHeadsBranches, allHeadsBranches, List.append_nil,
        List.append_assoc]
    · rw [parseClauses, Parse.bind_of_ok (Parse.ofMalformed_of_ok hk)]
      dsimp only
      rw [if_neg (by simp [he])]
      apply Parse.bind_of_allow hs.parseValue_allow
      rw [Parse.bind_of_ok (Parse.ofMalformed_of_ok hb), hi]

theorem ReadsEntries.parseEntries_allow {d : Nat} {g : Guard} {es : List (String × Value)}
    {fs : List (String × Statement)} {g' : Guard} : ReadsEntries o.unlimited d g es fs g' →
      parseEntries o d es g = o.allow (allHeadsEntries fs) (fs, g')
  | .nil => rfl
  | .cons hs hi => by
    rw [parseEntries, allHeadsEntries]
    apply Parse.bind_of_allow hs.parseValue_allow
    exact Parse.bind_of_allow_of_ok hi.parseEntries_allow rfl

end

mutual

theorem Reads.unlimited {d : Nat} {g : Guard} {v : Value} {t : Statement} {g' : Guard} :
    Reads o d g v t g' → Reads o.unlimited d g v t g'
  | .unset hd => .unset hd
  | .scalar hd => .scalar hd
  | .sequence hd hi hc => .sequence hd hi.unlimited hc
  | .single hd hr hi hc => .single hd hr hi.unlimited hc
  | .clauses hd hr hi hc hl => .clauses hd hr hi.unlimited hc hl
  | .literal hd hr hi hc => .literal hd hr hi.unlimited hc
  | .mapping hd hr hi hc => .mapping hd hr hi.unlimited hc

theorem ReadsItems.unlimited {d : Nat} {a : Alternation} {g : Guard} {vs : List Value}
    {b : Alternation} {g' : Guard} : ReadsItems o d a g vs b g' → ReadsItems o.unlimited d a g vs b g'
  | .nil => .nil
  | .fail hm hb hi => .fail hm hb hi.unlimited
  | .literal hv ht hl hi => .literal hv ht.unlimited hl hi.unlimited
  | .clauses hr hc hi => .clauses hr hc.unlimited hi.unlimited

theorem ReadsClauses.unlimited {d : Nat} {a : Alternation} {g : Guard} {es : List (String × Value)}
    {b : Alternation} {g' : Guard} : ReadsClauses o d a g es b g' → ReadsClauses o.unlimited d a g es b g'
  | .nil => .nil
  | .clause hk hm ho hs hc hi =>
    .clause hk hm (Options.checkHead_unlimited ho) hs.unlimited hc hi.unlimited
  | .fail hk he hb hi => .fail hk he hb hi.unlimited
  | .body hk he hs hb hi => .body hk he hs.unlimited hb hi.unlimited

theorem ReadsEntries.unlimited {d : Nat} {g : Guard} {es : List (String × Value)}
    {fs : List (String × Statement)} {g' : Guard} :
    ReadsEntries o d g es fs g' → ReadsEntries o.unlimited d g es fs g'
  | .nil => .nil
  | .cons hs hi => .cons hs.unlimited hi.unlimited

end

variable {raw : Value} {t : Statement}

theorem parse_unlimited (h : parse o raw = .ok t) : parse o.unlimited raw = .ok t := by
  obtain ⟨g, hr⟩ := parse_eq_ok_iff.1 h
  exact parse_eq_ok_iff.2 ⟨g, hr.unlimited⟩

theorem parse_eq_allow (h : parse o.unlimited raw = .ok t) : parse o raw = o.allow t.allHeads t := by
  obtain ⟨g, hr⟩ := parse_eq_ok_iff.1 h
  have ha : parseValue o 0 raw o.variant.guard = o.allow t.allHeads (t, g) := hr.parseValue_allow
  rw [parse, StateT.run', ha, Options.allow, Options.allow]
  cases o.firstUnknown? t.allHeads <;> rfl

def selectorSets (t : Statement) : List (Kind × Selectors) := t.allHeads.flatMap Head.sets

/-- Limits on names accept what is read without them and uses no other name, as the same tree. Where they
refuse it, the error names the least unknown token of the first set that has one. -/
theorem parse_limited (o : Options) (raw : Value) (t : Statement) :
    (parse o raw = .ok t ↔ parse o.unlimited raw = .ok t ∧
      ∀ x ∈ t.selectorSets, ∀ s ∈ x.2, ¬ o.Unknown x.1 s) ∧
    (parse o.unlimited raw = .ok t → ∀ e, parse o raw = .error e →
      ∃ before k ss after s, t.selectorSets = before ++ (k, ss) :: after ∧
        (∀ x ∈ before, ∀ s ∈ x.2, ¬ o.Unknown x.1 s) ∧ s ∈ ss ∧ o.Unknown k s ∧
          (∀ s' ∈ ss, o.Unknown k s' → s ≤ s') ∧ e = .unknownSelector s k) := by
  constructor
  · constructor
    · intro h
      have hu := parse_unlimited h
      rw [parse_eq_allow hu] at h
      exact ⟨hu, (Options.allow_eq_ok.1 h).2⟩
    · rintro ⟨hu, hk⟩
      rw [parse_eq_allow hu]
      exact Options.allow_eq_ok.2 ⟨rfl, hk⟩
  · intro hu e he
    rw [parse_eq_allow hu] at he
    exact Options.of_allow_eq_error he

def portOptions : Options := { architectures := some ["amd64", "arm64"], platforms := some [] }

def portRecipe : Value :=
  .sequence [.mapping [("on other", .string "a"), ("else", .sequence [.mapping [("to amd64", .string "b")]])],
    .mapping [("k", .mapping [("on amd64 to s390x,amd64,riscv64", .string "c"), ("else", .unset)])]]

def portTree : Statement :=
  .sequence [.clause (.host (.ofList ["other"])) (.leaf (.string "a"))
      [.body (.sequence [.clause (.target (.ofList ["amd64"])) (.leaf (.string "b")) []])],
    .mapping [("k", .clause (.hostTarget (.ofList ["amd64"]) (.ofList ["amd64", "riscv64", "s390x"]))
      (.leaf (.string "c")) [.fail])]]

theorem parse_limited_ports :
    parse portOptions.unlimited portRecipe = .ok portTree ∧
      parse portOptions portRecipe = .error (.unknownSelector "riscv64" .hostTarget) ∧
      (∃ before ss after, portTree.selectorSets = before ++ (.hostTarget, ss) :: after ∧
        (∀ x ∈ before, ∀ s ∈ x.2, ¬ portOptions.Unknown x.1 s) ∧
          ∀ s ∈ ss, portOptions.Unknown .hostTarget s → "riscv64" ≤ s) ∧
      ¬ ∀ x ∈ portTree.selectorSets, ∀ s ∈ x.2, ¬ portOptions.Unknown x.1 s := by
  have hu : parse portOptions.unlimited portRecipe = .ok portTree := by cbv
  have he : parse portOptions portRecipe = .error (.unknownSelector "riscv64" .hostTarget) := by cbv
  obtain ⟨hiff, hfirst⟩ := parse_limited portOptions portRecipe portTree
  refine ⟨hu, he, ?_, ?_⟩
  · obtain ⟨before, k, ss, after, s, hs, hb, -, -, hl, hk⟩ := hfirst hu _ he
    cases hk
    exact ⟨before, ss, after, hs, hb, hl⟩
  · intro hk
    have hok := hiff.2 ⟨hu, hk⟩
    rw [he] at hok
    cases hok

end Statement

end Recipe
