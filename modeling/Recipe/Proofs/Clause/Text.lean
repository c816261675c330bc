import Mathlib
import Recipe.Proofs.Clause.WellFormed

namespace Recipe

namespace Selectors

variable {ss : Selectors}

theorem WellFormed.not_blank_text (h : ss.WellFormed) : ∀ c ∈ ss.text.toList, Text.isBlank c = false := by
  rw [text, String.toList_intercalate]
  exact not_blank_intercalate (List.forall_mem_map.2 h.not_blank)

theorem WellFormed.text_ne_nil (h : ss.WellFormed) : ss.text.toList ≠ [] := by
  intro he
  have hp := parse_text h
  rw [he] at hp
  cases hp

end Selectors

namespace Clause

variable {key : String} {k : Kind} {rest : List Char} {ss ts : Selectors}

theorem clauseWord_words (hk : k = .host ∨ k = .target ∨ k = .platform) (rest : List Char) :
    clauseWord (k.words.toList ++ ' ' :: rest) = some (k, Text.trim rest) := by
  have hb : Text.isBlank ' ' = true := by decide
  have ht : Text.trim (' ' :: rest) = Text.trim rest := Text.trim_cons hb
  obtain rfl | rfl | rfl := hk <;> simp [clauseWord, afterWord, Kind.words, List.isPrefixOf, hb, ht]

theorem classify_of_readHead {h : Head} (hk : k = .host ∨ k = .target ∨ k = .platform)
    (hw : key.toList = k.words.toList ++ ' ' :: rest) (ht : Text.trim rest = rest)
    (hr : readHead key k rest = .ok h) : classify key = .ok (.clause h) := by
  have hw : clauseWord key.toList = some (k, rest) := by rw [hw, clauseWord_words hk, ht]
  have hne {word : String} (hn : clauseWord word.toList = none) : key ≠ word := by
    rintro rfl
    cases hn.symm.trans hw
  rw [classify, if_neg (hne rfl), if_neg (hne rfl), hw]
  dsimp only
  rw [hr]
  rfl

theorem readHead_host (hs : ss.WellFormed) : readHead key .host ss.text.toList = .ok (.host ss) := by
  rw [readHead, Text.words_of_not_blank hs.text_ne_nil hs.not_blank_text]
  dsimp only
  rw [Selectors.parse_text hs]
  rfl

theorem readHead_target (hs : ss.WellFormed) :
    readHead key .target ss.text.toList = .ok (.target ss) := by
  rw [readHead]
  dsimp only
  rw [Selectors.parse_text hs]
  rfl

theorem readHead_hostTarget (hs : ss.WellFormed) (ht : ts.WellFormed) :
    readHead key .host (ss.text.toList ++ ' ' :: ('t' :: 'o' :: ' ' :: ts.text.toList)) =
      .ok (.hostTarget ss ts) := by
  have hb : Text.isBlank ' ' = true := by decide
  have hw : Text.words ('t' :: 'o' :: ' ' :: ts.text.toList) = [['t', 'o'], ts.text.toList] := by
    change Text.words (['t', 'o'] ++ ' ' :: ts.text.toList) = _
    rw [Text.words_append hb, Text.words_of_not_blank ht.text_ne_nil ht.not_blank_text]
    rfl
  rw [readHead, Text.words_append hb, hw, Text.words_of_not_blank hs.text_ne_nil hs.not_blank_text]
  change ((Selectors.parse ss.text.toList).mapError _ >>= _) = _
  rw [Selectors.parse_text hs]
  change ((Selectors.parse ts.text.toList).mapError _ >>= _) = _
  rw [Selectors.parse_text ht]
  rfl

theorem readHead_platform (hs : ss.WellFormed) (hl : ss.tokens.length = 1) :
    readHead key .platform ss.text.toList = .ok (.platform ss) := by
  obtain ⟨t, ht⟩ := List.length_eq_one_iff.1 hl
  have hc : ',' ∉ ss.text.toList := by
    rw [Selectors.text, ht, String.intercalate_singleton]
    exact hs.not_comma t (by change t ∈ ss.tokens; rw [ht]; exact List.mem_singleton_self t)
  rw [readHead, if_neg hs.text_ne_nil, if_neg (by simpa using hs.not_blank_text), if_neg hc]
  · dsimp only
    rw [Selectors.parse_text hs]
    rfl
  · simp
  · simp

variable {h g : Head}

theorem Head.WellFormed.parsed (hw : h.WellFormed) : h.Parsed := by
  cases h with
  | host | target => exact hw.1
  | hostTarget => exact ⟨hw.1.1, hw.2.1⟩
  | platform | attempt => exact hw

theorem classify_text (hp : h.Parsed) : classify h.text = .ok (.clause h) := by
  have trimmed {ss : Selectors} (hs : ss.WellFormed) : Text.trim ss.text.toList = ss.text.toList :=
    Text.trim_of_not_blank hs.not_blank_text
  cases h with
  | host ss =>
    apply classify_of_readHead (.inl rfl) _ (trimmed hp) (readHead_host hp)
    simp [Head.text, Kind.words, toString]
  | target ss =>
    apply classify_of_readHead (.inr (.inl rfl)) _ (trimmed hp) (readHead_target hp)
    simp [Head.text, Kind.words, toString]
  | platform ss =>
    apply classify_of_readHead (.inr (.inr rfl)) _ (trimmed hp.1) (readHead_platform hp.1 hp.2)
    simp [Head.text, Kind.words, toString]
  | hostTarget ss ts =>
    obtain ⟨hs, ht⟩ := hp
    apply classify_of_readHead (.inl rfl) _ _ (readHead_hostTarget hs ht)
    · simp [Head.text, Kind.words, toString]
    · -- the first character is of one list, and the last of the other
      apply Text.trim_eq_self
      · intro c hc
        rw [List.head?_append_of_ne_nil _ hs.text_ne_nil] at hc
        exact hs.not_blank_text c (List.mem_of_head? hc)
      · intro c hc
        have happ (l : List Char) : ss.text.toList ++ ' ' :: 't' :: 'o' :: ' ' :: l =
            (ss.text.toList ++ [' ', 't', 'o', ' ']) ++ l := by simp
        rw [happ, List.getLast?_append_of_ne_nil _ ht.text_ne_nil] at hc
        exact ht.not_blank_text c (List.mem_of_getLast? hc)
  | attempt => rfl

theorem text_inj (hh : h.Parsed) (hg : g.Parsed) : h.text = g.text ↔ h = g := by
  constructor
  · intro he
    have hc := classify_text hh
    rw [he, classify_text hg] at hc
    cases hc
    rfl
  · rintro rfl
    rfl

theorem count_text {hs : List Head} (hp : ∀ g ∈ hs, g.Parsed) (hh : h.Parsed) :
    (hs.map Head.text).count h.text = hs.count h := by
  rw [List.count, List.countP_map, List.count]
  apply List.countP_congr
  intro g hg
  simpa using text_inj (hp g hg) hh

end Clause

end Recipe
