import Recipe.Clause.Key
import Recipe.Proofs.Except

namespace Recipe.Clause

theorem readHead_ne_attempt {key : String} {k : Kind} {rest : List Char} :
    readHead key k rest ≠ .ok .attempt := by
  intro h
  simp only [readHead] at h
  split at h
  · split at h
    · simp only [Except.bind_eq_ok] at h
      obtain ⟨ss, -, ts, -, h⟩ := h
      cases h
    · obtain ⟨ss, -, h⟩ := Except.map_eq_ok.1 h
      cases h
  · obtain ⟨ss, -, h⟩ := Except.map_eq_ok.1 h
    cases h
  · repeat
      split at h
      · cases h
    obtain ⟨ss, -, h⟩ := Except.map_eq_ok.1 h
    cases h

theorem of_classify {k : String} {key : Key} (h : classify k = .ok key) :
    (k = tryWord ∧ key = .clause .attempt) ∨ (k = elseWord ∧ key = .otherwise) ∨
      (clauseWord k.toList = none ∧ key = .plain) ∨
      ∃ kind rest c, clauseWord k.toList = some (kind, rest) ∧ readHead k kind rest = .ok c ∧
        key = .clause c := by
  rw [classify] at h
  split at h
  · cases h
    exact .inl ⟨by assumption, rfl⟩
  · split at h
    · cases h
      exact .inr (.inl ⟨by assumption, rfl⟩)
    · split at h
      · cases h
        exact .inr (.inr (.inl ⟨by assumption, rfl⟩))
      · obtain ⟨c, hc, rfl⟩ := Except.map_eq_ok.1 h
        exact .inr (.inr (.inr ⟨_, _, c, by assumption, hc, rfl⟩))

theorem isReserved_iff (key : String) : isReserved key ↔ classify key ≠ .ok .plain := by
  rw [isReserved, classify]
  by_cases ht : key = tryWord
  · simp [ht]
  · by_cases he : key = elseWord
    · simp [he, elseWord, tryWord]
    · rw [if_neg ht, if_neg he]
      cases clauseWord key.toList with
      | none => simp [ht, he]
      | some w => simp [Except.map_eq_ok]

theorem eq_tryWord_of_classify {k : String} (h : classify k = .ok (.clause .attempt)) :
    k = tryWord := by
  obtain ⟨hk, -⟩ | ⟨-, hh⟩ | ⟨-, hh⟩ | ⟨_, _, c, -, hc, hh⟩ := of_classify h
  · exact hk
  · cases hh
  · cases hh
  · cases hh
    exact (readHead_ne_attempt hc).elim

theorem eq_elseWord_of_classify {k : String} (h : classify k = .ok .otherwise) : k = elseWord := by
  obtain ⟨-, hh⟩ | ⟨hk, -⟩ | ⟨-, hh⟩ | ⟨_, _, _, -, -, hh⟩ := of_classify h
  · cases hh
  · exact hk
  · cases hh
  · cases hh

theorem prefix_of_afterWord {word key rest : List Char} (h : afterWord word key = some rest) :
    word <+: key := by
  rw [afterWord] at h
  split at h
  · rename_i hw
    exact List.isPrefixOf_iff_prefix.1 hw
  · cases h

theorem elseWord_lt_of_classify {k : String} {h : Head} (hk : classify k = .ok (.clause h)) :
    elseWord < k := by
  have hlt {c : Char} {cs : List Char} (hc : 'e' < c) (hk : c :: cs <+: k.toList) :
      elseWord < k := by
    obtain ⟨ds, hds⟩ := hk
    rw [String.lt_iff, ← hds, List.cons_append]
    exact .rel hc
  obtain ⟨rfl, -⟩ | ⟨-, hh⟩ | ⟨-, hh⟩ | ⟨_, _, _, hw, -⟩ := of_classify hk
  · decide
  · cases hh
  · cases hh
  · simp only [clauseWord, Option.or_eq_some_iff, Option.map_eq_some_iff] at hw
    obtain ⟨_, hw, -⟩ | ⟨-, ⟨_, hw, -⟩ | ⟨-, _, hw, -⟩⟩ := hw
    · exact hlt (by decide) (prefix_of_afterWord hw)
    · exact hlt (by decide) (prefix_of_afterWord hw)
    · exact hlt (by decide) (prefix_of_afterWord hw)

end Recipe.Clause
