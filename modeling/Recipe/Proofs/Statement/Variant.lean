import Recipe.Proofs.Statement.Family

namespace Recipe

open Clause (Head)

namespace Guard

def Allows (f : Family) : Guard → Prop
  | .only g => g = f
  | .detect none => True
  | .detect (some g) => g = f

variable {g g' : Guard} {f f' : Family}

theorem Becomes.eq_only (h : (only f).Becomes g) : g = .only f := by
  cases h
  rfl

theorem Becomes.allows (h : g.Becomes g') (hf : g'.Allows f) : g.Allows f := by
  cases h with
  | same => exact hf
  | decided => trivial

theorem Fixes.eq_of_allows (h : g.Fixes f) (hf : g.Allows f') : f = f' := by
  cases g with
  | only x => exact h.symm.trans hf
  | detect x =>
    cases h
    exact hf

theorem meet_only : (only f).meet f = .ok (.only f) := by rw [meet, if_pos rfl]

theorem exists_meet_of_allows (h : g.Allows f) : ∃ g', g.meet f = .ok g' ∧ g'.Allows f := by
  cases g with
  | only x =>
    cases h
    exact ⟨_, meet_only, rfl⟩
  | detect x =>
    cases x with
    | none => exact ⟨_, rfl, rfl⟩
    | some x =>
      obtain rfl : x = f := h
      exact ⟨.detect (some x), by rw [meet, if_pos rfl], rfl⟩

theorem meet_only_of_allows (h : g.meet f' = .ok g') (hf : g'.Allows f) :
    (only f).meet f' = .ok (.only f) := by
  rw [(of_meet h).2.eq_of_allows hf, meet_only]

end Guard

namespace Statement

variable {o : Options}

mutual

theorem Reads.only {f : Family} {d : Nat} {g : Guard} {v : Value} {t : Statement} {g' : Guard} :
    Reads o d g v t g' → g'.Allows f → Reads o d (.only f) v t (.only f)
  | .unset hd, _ => .unset hd
  | .scalar hd, _ => .scalar hd
  | .sequence hd hi hc, hf => .sequence hd (hi.only hf) hc
  | .single hd hr hi hc, hf => .single hd hr (hi.only hf) hc
  | .clauses hd hr hi hc hl, hf => .clauses hd hr (hi.only hf) hc hl
  | .literal hd hr hi hc, hf => .literal hd hr (hi.only hf) hc
  | .mapping hd hr hi hc, hf => .mapping hd hr (hi.only hf) hc

theorem ReadsItems.only {f : Family} {d : Nat} {a : Alternation} {g : Guard} {vs : List Value}
    {b : Alternation} {g' : Guard} :
    ReadsItems o d a g vs b g' → g'.Allows f → ReadsItems o d a (.only f) vs b (.only f)
  | .nil, _ => .nil
  | .fail hm hb hi, hf =>
    .fail (Guard.meet_only_of_allows hm (hi.becomes.allows hf)) hb (hi.only hf)
  | .literal hl ht ha hi, hf => .literal hl (ht.only (hi.becomes.allows hf)) ha (hi.only hf)
  | .clauses hr hc hi, hf => .clauses hr (hc.only (hi.becomes.allows hf)) (hi.only hf)

theorem ReadsClauses.only {f : Family} {d : Nat} {a : Alternation} {g : Guard}
    {es : List (String × Value)} {b : Alternation} {g' : Guard} :
    ReadsClauses o d a g es b g' → g'.Allows f → ReadsClauses o d a (.only f) es b (.only f)
  | .nil, _ => .nil
  | .clause hk hm ho hs hc hi, hf =>
    have hf' := hi.becomes.allows hf
    .clause hk (Guard.meet_only_of_allows hm (hs.becomes.allows hf')) ho (hs.only hf') hc (hi.only hf)
  | .fail hk he hb hi, hf => .fail hk he hb (hi.only hf)
  | .body hk he hs hb hi, hf => .body hk he (hs.only (hi.becomes.allows hf)) hb (hi.only hf)

theorem ReadsEntries.only {f : Family} {d : Nat} {g : Guard} {es : List (String × Value)}
    {fs : List (String × Statement)} {g' : Guard} :
    ReadsEntries o d g es fs g' → g'.Allows f → ReadsEntries o d (.only f) es fs (.only f)
  | .nil, _ => .nil
  | .cons hs hi, hf => .cons (hs.only (hi.becomes.allows hf)) (hi.only hf)

end

mutual

theorem Reads.of_only {f : Family} {d : Nat} {g h : Guard} {v : Value} {t : Statement} {g' : Guard} :
    Reads o d g v t g' → g = .only f → h.Allows f → ∃ h', h'.Allows f ∧ Reads o d h v t h'
  | .unset hd, _, hh => ⟨h, hh, .unset hd⟩
  | .scalar hd, _, hh => ⟨h, hh, .scalar hd⟩
  | .sequence hd hi hc, hg, hh =>
    let ⟨h', hh', hi⟩ := hi.of_only hg hh
    ⟨h', hh', .sequence hd hi hc⟩
  | .single hd hr hi hc, hg, hh =>
    let ⟨h', hh', hi⟩ := hi.of_only hg hh
    ⟨h', hh', .single hd hr hi hc⟩
  | .clauses hd hr hi hc hl, hg, hh =>
    let ⟨h', hh', hi⟩ := hi.of_only hg hh
    ⟨h', hh', .clauses hd hr hi hc hl⟩
  | .literal hd hr hi hc, hg, hh =>
    let ⟨h', hh', hi⟩ := hi.of_only hg hh
    ⟨h', hh', .literal hd hr hi hc⟩
  | .mapping hd hr hi hc, hg, hh =>
    let ⟨h', hh', hi⟩ := hi.of_only hg hh
    ⟨h', hh', .mapping hd hr hi hc⟩

theorem ReadsItems.of_only {f : Family} {d : Nat} {a : Alternation} {g h : Guard} {vs : List Value}
    {b : Alternation} {g' : Guard} : ReadsItems o d a g vs b g' → g = .only f → h.Allows f →
      ∃ h', h'.Allows f ∧ ReadsItems o d a h vs b h'
  | .nil, _, hh => ⟨h, hh, .nil⟩
  | .fail hm hb hi, hg, hh => by
    subst hg
    obtain ⟨hb', hf⟩ := Guard.of_meet hm
    obtain rfl := hb'.eq_only
    cases hf
    obtain ⟨h₁, hm', hh₁⟩ := Guard.exists_meet_of_allows hh
    obtain ⟨h', hh', hi⟩ := hi.of_only rfl hh₁
    exact ⟨h', hh', .fail hm' hb hi⟩
  | .literal hl ht ha hi, hg, hh => by
    subst hg
    obtain ⟨h₁, hh₁, ht'⟩ := ht.of_only rfl hh
    obtain ⟨h', hh', hi⟩ := hi.of_only ht.becomes.eq_only hh₁
    exact ⟨h', hh', .literal hl ht' ha hi⟩
  | .clauses hr hc hi, hg, hh => by
    subst hg
    obtain ⟨h₁, hh₁, hc'⟩ := hc.of_only rfl hh
    obtain ⟨h', hh', hi⟩ := hi.of_only hc.becomes.eq_only hh₁
    exact ⟨h', hh', .clauses hr hc' hi⟩

theorem ReadsClauses.of_only {f : Family} {d : Nat} {a : Alternation} {g h : Guard}
    {es : List (String × Value)} {b : Alternation} {g' : Guard} :
    ReadsClauses o d a g es b g' → g = .only f → h.Allows f →
      ∃ h', h'.Allows f ∧ ReadsClauses o d a h es b h'
  | .nil, _, hh => ⟨h, hh, .nil⟩
  | .clause hk hm ho hs hc hi, hg, hh => by
    subst hg
    obtain ⟨hb, hf⟩ := Guard.of_meet hm
    obtain rfl := hb.eq_only
    cases hf
    obtain ⟨h₁, hm', hh₁⟩ := Guard.exists_meet_of_allows hh
    obtain ⟨h₂, hh₂, hs'⟩ := hs.of_only rfl hh₁
    obtain ⟨h', hh', hi⟩ := hi.of_only hs.becomes.eq_only hh₂
    exact ⟨h', hh', .clause hk hm' ho hs' hc hi⟩
  | .fail hk he hb hi, hg, hh => by
    obtain ⟨h', hh', hi⟩ := hi.of_only hg hh
    exact ⟨h', hh', .fail hk he hb hi⟩
  | .body hk he hs hb hi, hg, hh => by
    subst hg
    obtain ⟨h₁, hh₁, hs'⟩ := hs.of_only rfl hh
    obtain ⟨h', hh', hi⟩ := hi.of_only hs.becomes.eq_only hh₁
    exact ⟨h', hh', .body hk he hs' hb hi⟩

theorem ReadsEntries.of_only {f : Family} {d : Nat} {g h : Guard} {es : List (String × Value)}
    {fs : List (String × Statement)} {g' : Guard} : ReadsEntries o d g es fs g' → g = .only f →
      h.Allows f → ∃ h', h'.Allows f ∧ ReadsEntries o d h es fs h'
  | .nil, _, hh => ⟨h, hh, .nil⟩
  | .cons hs hi, hg, hh => by
    subst hg
    obtain ⟨h₁, hh₁, hs'⟩ := hs.of_only rfl hh
    obtain ⟨h', hh', hi⟩ := hi.of_only hs.becomes.eq_only hh₁
    exact ⟨h', hh', .cons hs' hi⟩

end

theorem reads_iff_exists_only {d : Nat} {g : Guard} {v : Value} {t : Statement} :
    (∃ g', Reads o d g v t g') ↔ ∃ f, g.Allows f ∧ Reads o d (.only f) v t (.only f) := by
  constructor
  · rintro ⟨g', h⟩
    obtain ⟨f, hf⟩ : ∃ f, g'.Allows f := by
      cases g' with
      | only f => exact ⟨f, rfl⟩
      | detect f =>
        cases f with
        | none => exact ⟨.archPair, trivial⟩
        | some f => exact ⟨f, rfl⟩
    exact ⟨f, h.becomes.allows hf, h.only hf⟩
  · rintro ⟨f, hf, h⟩
    obtain ⟨g', -, h⟩ := h.of_only rfl hf
    exact ⟨g', h⟩

end Statement

end Recipe
