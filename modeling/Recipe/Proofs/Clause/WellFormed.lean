import Recipe.Clause.Key
import Recipe.Options
import Recipe.Proofs.Clause.Key
import Recipe.Proofs.Clause.SelectorList

namespace Recipe

namespace Clause

open Selectors (any other)

/-- A head with well-formed sets, `any` in platform clauses only, no wildcard in a compound clause, and a
single token in a platform clause. -/
def Head.WellFormed : Head → Prop
  | .host ss | .target ss => ss.WellFormed ∧ any ∉ ss
  | .hostTarget ss ts =>
    (ss.WellFormed ∧ any ∉ ss ∧ other ∉ ss) ∧ (ts.WellFormed ∧ any ∉ ts ∧ other ∉ ts)
  | .platform ss => ss.WellFormed ∧ ss.tokens.length = 1
  | .attempt => True

def Head.Parsed : Head → Prop
  | .host ss | .target ss => ss.WellFormed
  | .hostTarget ss ts => ss.WellFormed ∧ ts.WellFormed
  | .platform ss => ss.WellFormed ∧ ss.tokens.length = 1
  | .attempt => True

theorem parsed_of_readHead {key : String} {k : Kind} {rest : List Char} {h : Head}
    (hr : readHead key k rest = .ok h) : h.Parsed := by
  simp only [readHead] at hr
  split at hr
  · split at hr
    · simp only [Except.bind_eq_ok, Except.mapError_eq_ok] at hr
      obtain ⟨ss, hs, ts, ht, hh⟩ := hr
      cases hh
      exact ⟨Selectors.wellFormed_of_parse hs, Selectors.wellFormed_of_parse ht⟩
    · simp only [Except.map_eq_ok, Except.mapError_eq_ok] at hr
      obtain ⟨ss, hs, rfl⟩ := hr
      exact Selectors.wellFormed_of_parse hs
  · simp only [Except.map_eq_ok, Except.mapError_eq_ok] at hr
    obtain ⟨ss, hs, rfl⟩ := hr
    exact Selectors.wellFormed_of_parse hs
  · split at hr
    · cases hr
    · split at hr
      · cases hr
      · split at hr
        · cases hr
        · rename_i hc
          simp only [Except.map_eq_ok, Except.mapError_eq_ok] at hr
          obtain ⟨ss, hs, rfl⟩ := hr
          exact ⟨Selectors.wellFormed_of_parse hs, Selectors.length_tokens_of_parse hs hc⟩

theorem parsed_of_classify {key : String} {h : Head} (hk : classify key = .ok (.clause h)) :
    h.Parsed := by
  obtain ⟨-, hh⟩ | ⟨-, hh⟩ | ⟨-, hh⟩ | ⟨_, _, _, -, hc, hh⟩ := of_classify hk
  · cases hh
    trivial
  · cases hh
  · cases hh
  · cases hh
    exact parsed_of_readHead hc

end Clause

namespace Options

open Clause (Head Kind)

theorem wildcards_of_checkSelectors {o : Options} {key : String} {k : Kind} {ss : Selectors}
    (h : o.checkSelectors key k ss = .ok ()) :
    (k ≠ .platform → Selectors.any ∉ ss) ∧ (k = .hostTarget → ss.isOther = false) := by
  rw [checkSelectors] at h
  split at h
  · cases h
  · rename_i ha
    split at h
    · cases h
    · rename_i ho
      constructor
      · intro hk hm
        exact ha ⟨hk, by simpa [Selectors.hasAny] using hm⟩
      · intro hk
        simpa [hk] using ho

theorem wellFormed_of_checkHead {o : Options} {key : String} {h : Head} (hp : h.Parsed)
    (hc : o.checkHead key h = .ok ()) : h.WellFormed := by
  have compound {ss : Selectors} (hs : ss.WellFormed)
      (h : o.checkSelectors key .hostTarget ss = .ok ()) :
      ss.WellFormed ∧ Selectors.any ∉ ss ∧ Selectors.other ∉ ss := by
    obtain ⟨ha, ho⟩ := wildcards_of_checkSelectors h
    refine ⟨hs, ha (by decide), ?_⟩
    intro hm
    simpa [Selectors.isOther, hs.eq_other hm] using ho rfl
  cases h with
  | host ss | target ss => exact ⟨hp, (wildcards_of_checkSelectors hc).1 (by decide)⟩
  | hostTarget ss ts =>
    obtain ⟨hs, ht⟩ := hp
    obtain ⟨_, h₁, h₂⟩ := Except.bind_eq_ok.1 hc
    exact ⟨compound hs h₁, compound ht h₂⟩
  | platform ss => exact hp
  | attempt => trivial

end Options

end Recipe
