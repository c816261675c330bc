import Mathlib
import Recipe.Proofs.Except
import Recipe.Proofs.Text.Pieces
import Recipe.Selectors

namespace Recipe

namespace Selectors

def listed (r : List Char) : List String := (r.splitOn ',').map String.ofList

structure Fresh (ts : List String) : Prop where
  empty_not_mem : "" ∉ ts
  nodup : ts.Nodup

/-- The leftmost token that is empty or repeats one before it. -/
inductive Fault : List String → SelectorError → Prop
  | emptyToken : Fresh ts → Fault (ts ++ "" :: us) .emptyToken
  | duplicate : Fresh ts → t ∈ ts → Fault (ts ++ t :: us) (.duplicate t)

structure Word (r : List Char) : Prop where
  ne_nil : r ≠ []
  not_blank : ∀ c ∈ r, Text.isBlank c = false

structure Accepted (r : List Char) : Prop extends Word r where
  fresh : Fresh (listed r)
  eq_other : other ∈ listed r → listed r = [other]

inductive Refused (r : List Char) : SelectorError → Prop
  | missing : r = [] → Refused r .missing
  | whitespace : c ∈ r → Text.isBlank c → Refused r .whitespace
  | fault : Word r → Fault (listed r) e → Refused r e
  | otherCombined : Word r → Fresh (listed r) → other ∈ listed r → listed r ≠ [other] →
      Refused r .otherCombined

variable {ss rs : Selectors} {ts : List String} {t : String} {raw : List Char} {e : SelectorError}

theorem listed_ne_nil (r : List Char) : listed r ≠ [] := by
  intro h
  exact List.splitOn_ne_nil ',' r (List.map_eq_nil_iff.1 h)

theorem of_mem_splitOn {r p : List Char} {c : Char} (hp : p ∈ r.splitOn ',') (hc : c ∈ p) :
    c ∈ r ∧ c ≠ ',' := by
  rw [List.splitOn_eq_splitOnP, ← Text.pieces_eq_splitOnP] at hp
  simpa using Text.of_mem_pieces hp hc

theorem of_mem_listed {r : List Char} {c : Char} (ht : t ∈ listed r) (hc : c ∈ t.toList) :
    c ∈ r ∧ c ≠ ',' := by
  obtain ⟨p, hp, rfl⟩ := List.mem_map.1 ht
  rw [String.toList_ofList] at hc
  exact of_mem_splitOn hp hc

theorem nodup_tokens (ss : Selectors) : ss.tokens.Nodup := ss.sorted.imp String.ne_of_lt

theorem perm_tokens (h : ∀ s, s ∈ ss ↔ s ∈ ts) (hn : ts.Nodup) : ss.tokens.Perm ts :=
  (List.perm_ext_iff_of_nodup ss.nodup_tokens hn).2 h

theorem eq_of_mem_iff (h : ∀ s, s ∈ ss ↔ s ∈ rs) : ss = rs := by
  have he : ss.tokens = rs.tokens := (perm_tokens h rs.nodup_tokens).eq_of_pairwise
    (fun _ _ _ _ hlt hgt => (String.lt_asymm hlt hgt).elim) ss.sorted rs.sorted
  cases ss
  cases rs
  cases he
  rfl

theorem fresh_concat : Fresh (ts ++ [t]) ↔ Fresh ts ∧ t ≠ "" ∧ t ∉ ts := by
  constructor
  · rintro ⟨he, hn⟩
    rw [List.mem_append, List.mem_singleton, not_or] at he
    rw [List.nodup_append] at hn
    exact ⟨⟨he.1, hn.1⟩, Ne.symm he.2, fun ht => hn.2.2 t ht t (List.mem_singleton_self t) rfl⟩
  · rintro ⟨⟨he, hn⟩, ht, hm⟩
    refine ⟨by simp [he, Ne.symm ht], ?_⟩
    rw [List.nodup_append]
    refine ⟨hn, List.nodup_singleton t, ?_⟩
    rintro a ha b hb rfl
    exact hm (List.mem_singleton.1 hb ▸ ha)

theorem fresh_or_fault (us : List String) (hf : Fresh ts) :
    Fresh (ts ++ us) ∨ ∃ e, Fault (ts ++ us) e := by
  induction us generalizing ts with
  | nil => exact .inl (by rwa [List.append_nil])
  | cons u us ih =>
    by_cases hu : u = ""
    · subst hu
      exact .inr ⟨_, .emptyToken hf⟩
    · by_cases hm : u ∈ ts
      · exact .inr ⟨_, .duplicate hf hm⟩
      · rw [List.append_cons]
        exact ih (fresh_concat.2 ⟨hf, hu, hm⟩)

theorem extend_append (us : List String) (hf : Fresh ts) (hd : ∀ s ∈ ts, s ∉ ss) :
    ∃ rs : Selectors, (∀ s, s ∈ rs ↔ s ∈ ss ∨ s ∈ ts) ∧ ss.extend (ts ++ us) = rs.extend us := by
  induction ts generalizing ss with
  | nil => exact ⟨ss, by simp, rfl⟩
  | cons t ts ih =>
    obtain ⟨he, hn⟩ := hf
    rw [List.mem_cons, not_or] at he
    rw [List.nodup_cons] at hn
    rw [List.forall_mem_cons] at hd
    have hd' : ∀ s ∈ ts, s ∉ ss.insert t := by
      intro s hs hm
      obtain rfl | hm := mem_insert.1 hm
      · exact hn.1 hs
      · exact hd.2 s hs hm
    obtain ⟨rs, hm, hr⟩ := ih ⟨he.2, hn.2⟩ hd'
    refine ⟨rs, ?_, ?_⟩
    · intro s
      rw [hm, mem_insert, List.mem_cons, or_assoc, or_left_comm]
    · rw [List.cons_append, extend, if_neg (Ne.symm he.1), if_neg hd.1, hr]

theorem extend_eq_error_of_fault (h : Fault ts e) : empty.extend ts = .error e := by
  cases h with
  | emptyToken hf =>
    obtain ⟨rs, -, hr⟩ := extend_append _ hf fun s _ => not_mem_empty
    rw [hr, extend, if_pos rfl]
  | @duplicate ts t us hf ht =>
    obtain ⟨rs, hm, hr⟩ := extend_append (t :: us) hf fun s _ => not_mem_empty
    have he : t ≠ "" := by
      rintro rfl
      exact hf.empty_not_mem ht
    rw [hr, extend, if_neg he, if_pos ((hm t).2 (.inr ht))]

theorem extend_eq_ok_of_fresh (hf : Fresh ts) :
    ∃ rs : Selectors, (∀ s, s ∈ rs ↔ s ∈ ts) ∧ empty.extend ts = .ok rs := by
  obtain ⟨rs, hm, hr⟩ := extend_append [] hf fun s _ => not_mem_empty
  rw [List.append_nil] at hr
  exact ⟨rs, fun s => by simp [hm], hr⟩

theorem fresh_empty : Fresh [] := ⟨by simp, .nil⟩

theorem combined_iff (hn : ts.Nodup) (hm : ∀ s, s ∈ ss ↔ s ∈ ts) :
    (1 < ss.tokens.length ∧ other ∈ ss) ↔ other ∈ ts ∧ ts ≠ [other] := by
  rw [hm, (perm_tokens hm hn).length_eq, and_comm, and_congr_right_iff]
  intro ho
  cases ts with
  | nil => cases ho
  | cons t ts =>
    cases ts with
    | nil =>
      rw [List.mem_singleton] at ho
      simp [ho]
    | cons u us => simp

theorem parse_eq_listed (raw : List Char) : parse raw =
    if Text.trim raw = [] then .error .missing
    else if (Text.trim raw).any Text.isBlank then .error .whitespace
    else empty.extend (listed (Text.trim raw)) >>= fun ss =>
      if 1 < ss.tokens.length ∧ other ∈ ss then .error .otherCombined else .ok ss := by
  rw [parse, listed, List.splitOn_eq_splitOnP, ← Text.pieces_eq_splitOnP]

theorem parse_of_word (hw : Word (Text.trim raw)) : parse raw =
    (empty.extend (listed (Text.trim raw)) >>= fun ss =>
      if 1 < ss.tokens.length ∧ other ∈ ss then .error .otherCombined else .ok ss) := by
  rw [parse_eq_listed, if_neg hw.ne_nil, if_neg]
  simpa using hw.not_blank

theorem parse_of_accepted (ha : Accepted (Text.trim raw)) :
    ∃ ss, (∀ s, s ∈ ss ↔ s ∈ listed (Text.trim raw)) ∧ parse raw = .ok ss := by
  obtain ⟨ss, hm, hs⟩ := extend_eq_ok_of_fresh ha.fresh
  refine ⟨ss, hm, ?_⟩
  rw [parse_of_word ha.toWord, hs, Except.ok_bind, if_neg]
  rw [combined_iff ha.fresh.nodup hm, not_and, not_not]
  exact ha.eq_other

theorem parse_of_refused (h : Refused (Text.trim raw) e) : parse raw = .error e := by
  cases h with
  | missing hn => rw [parse_eq_listed, if_pos hn]
  | whitespace hc hb =>
    rw [parse_eq_listed, if_neg (List.ne_nil_of_mem hc), if_pos (List.any_eq_true.2 ⟨_, hc, hb⟩)]
  | fault hw hf =>
    rw [parse_of_word hw, extend_eq_error_of_fault hf]
    rfl
  | otherCombined hw hf ho hne =>
    obtain ⟨ss, hm, hs⟩ := extend_eq_ok_of_fresh hf
    rw [parse_of_word hw, hs, Except.ok_bind, if_pos]
    exact (combined_iff hf.nodup hm).2 ⟨ho, hne⟩

theorem accepted_or_refused (r : List Char) : Accepted r ∨ ∃ e, Refused r e := by
  by_cases hn : r = []
  · exact .inr ⟨_, .missing hn⟩
  · by_cases hb : ∃ c ∈ r, Text.isBlank c
    · obtain ⟨c, hc, hb⟩ := hb
      exact .inr ⟨_, .whitespace hc hb⟩
    · have hw : Word r := ⟨hn, by simpa using hb⟩
      obtain hf | ⟨e, hf⟩ := fresh_or_fault (listed r) fresh_empty
      · by_cases ho : other ∈ listed r → listed r = [other]
        · exact .inl ⟨hw, hf, ho⟩
        · obtain ⟨ho, hne⟩ := Classical.not_imp.1 ho
          exact .inr ⟨_, .otherCombined hw hf ho hne⟩
      · exact .inr ⟨e, .fault hw hf⟩

theorem parse_eq_ok_iff :
    parse raw = .ok ss ↔ Accepted (Text.trim raw) ∧ ∀ s, s ∈ ss ↔ s ∈ listed (Text.trim raw) := by
  constructor
  · intro h
    obtain ha | ⟨e, hr⟩ := accepted_or_refused (Text.trim raw)
    · obtain ⟨rs, hm, hs⟩ := parse_of_accepted ha
      cases hs.symm.trans h
      exact ⟨ha, hm⟩
    · cases (parse_of_refused hr).symm.trans h
  · rintro ⟨ha, hm⟩
    obtain ⟨rs, hrs, hs⟩ := parse_of_accepted ha
    rw [hs, eq_of_mem_iff fun s => (hm s).trans (hrs s).symm]

theorem parse_eq_error_iff : parse raw = .error e ↔ Refused (Text.trim raw) e := by
  refine ⟨?_, parse_of_refused⟩
  intro h
  obtain ha | ⟨e', hr⟩ := accepted_or_refused (Text.trim raw)
  · obtain ⟨ss, -, hs⟩ := parse_of_accepted ha
    cases hs.symm.trans h
  · cases (parse_of_refused hr).symm.trans h
    exact hr

/-- Some tokens, each of them a word without commas, and `other` only by itself. -/
structure WellFormed (ss : Selectors) : Prop where
  tokens_ne_nil : ss.tokens ≠ []
  ne_empty : ∀ s ∈ ss, s ≠ ""
  not_blank : ∀ s ∈ ss, ∀ c ∈ s.toList, Text.isBlank c = false
  not_comma : ∀ s ∈ ss, ',' ∉ s.toList
  eq_other : other ∈ ss → ss.tokens = [other]

theorem wellFormed_of_parse (h : parse raw = .ok ss) : ss.WellFormed := by
  obtain ⟨ha, hm⟩ := parse_eq_ok_iff.1 h
  have hp : ss.tokens.Perm (listed (Text.trim raw)) := perm_tokens hm ha.fresh.nodup
  have written {s : String} {c : Char} (hs : s ∈ ss) (hc : c ∈ s.toList) : c ∈ Text.trim raw ∧ c ≠ ',' :=
    of_mem_listed ((hm s).1 hs) hc
  refine ⟨?_, ?_, ?_, ?_, ?_⟩
  · intro hn
    rw [hn] at hp
    exact listed_ne_nil _ hp.nil_eq.symm
  · rintro s hs rfl
    exact ha.fresh.empty_not_mem ((hm "").1 hs)
  · intro s hs c hc
    exact ha.not_blank c (written hs hc).1
  · intro s hs hc
    exact (written hs hc).2 rfl
  · intro hs
    rw [ha.eq_other ((hm other).1 hs)] at hp
    exact List.perm_singleton.1 hp

theorem length_tokens_of_parse (h : parse raw = .ok ss) (hc : ',' ∉ raw) : ss.tokens.length = 1 := by
  obtain ⟨ha, hm⟩ := parse_eq_ok_iff.1 h
  have hc : ',' ∉ Text.trim raw := fun h => hc (Text.mem_of_mem_trim h)
  rw [(perm_tokens hm ha.fresh.nodup).length_eq, listed, List.splitOn_eq_singleton hc]
  rfl

section Joined

variable {ps : List (List Char)}

theorem listed_intercalate (hn : ps ≠ []) (hc : ∀ p ∈ ps, ',' ∉ p) :
    listed ([','].intercalate ps) = ps.map String.ofList := by
  rw [listed, List.splitOn_intercalate ',' hc hn]

theorem not_blank_intercalate (hb : ∀ p ∈ ps, ∀ c ∈ p, Text.isBlank c = false) :
    ∀ c ∈ [','].intercalate ps, Text.isBlank c = false := by
  intro c hc
  obtain hc | ⟨p, hp, hc⟩ := Text.mem_or_of_mem_intercalate hc
  · rw [List.mem_singleton.1 hc]
    decide
  · exact hb p hp c hc

theorem parse_intercalate (hn : ps ≠ []) (hc : ∀ p ∈ ps, ',' ∉ p)
    (hb : ∀ p ∈ ps, ∀ c ∈ p, Text.isBlank c = false) (hf : Fresh (ps.map String.ofList))
    (ho : other ∈ ps.map String.ofList → ps.map String.ofList = [other])
    (hm : ∀ s, s ∈ ss ↔ s ∈ ps.map String.ofList) : parse ([','].intercalate ps) = .ok ss := by
  have hl := listed_intercalate hn hc
  have hb := not_blank_intercalate hb
  have hr : [','].intercalate ps ≠ [] := by
    intro he
    rw [he] at hl
    exact hf.empty_not_mem (hl ▸ List.mem_singleton_self _)
  rw [parse_eq_ok_iff, Text.trim_of_not_blank hb, hl]
  exact ⟨⟨⟨hr, hb⟩, hl ▸ hf, hl ▸ ho⟩, hm⟩

theorem Accepted.parse_of_perm {r : List Char} (ha : Accepted r) (hm : ∀ s, s ∈ ss ↔ s ∈ listed r)
    (hp : ps.Perm (r.splitOn ',')) : parse ([','].intercalate ps) = .ok ss := by
  have hl : (ps.map String.ofList).Perm (listed r) := hp.map _
  apply parse_intercalate
  · rintro rfl
    exact List.splitOn_ne_nil ',' r hp.nil_eq.symm
  · intro p h hc
    exact (of_mem_splitOn (hp.mem_iff.1 h) hc).2 rfl
  · intro p h c hc
    exact ha.not_blank c (of_mem_splitOn (hp.mem_iff.1 h) hc).1
  · exact ⟨fun he => ha.fresh.empty_not_mem (hl.mem_iff.1 he), hl.nodup_iff.2 ha.fresh.nodup⟩
  · intro ho
    rw [ha.eq_other (hl.mem_iff.1 ho)] at hl
    exact List.perm_singleton.1 hl
  · intro s
    rw [hm, hl.mem_iff]

end Joined

theorem parse_text (h : ss.WellFormed) : parse ss.text.toList = .ok ss := by
  have hl : (ss.tokens.map String.toList).map String.ofList = ss.tokens := by simp
  rw [text, String.toList_intercalate]
  apply parse_intercalate
  · simpa using h.tokens_ne_nil
  · exact List.forall_mem_map.2 h.not_comma
  · exact List.forall_mem_map.2 h.not_blank
  · rw [hl]
    exact ⟨fun he => h.ne_empty _ he rfl, ss.nodup_tokens⟩
  · rw [hl]
    exact h.eq_other
  · intro s
    rw [hl]
    rfl

/-- A list is a set when, without the blanks around it, it holds no blank, its tokens are not empty and
differ, and `other` is not one of several; then it is the set of its tokens, as it is in any order of them
and as the text of the set is. Otherwise the first of these that fails is told, and of the tokens the
leftmost that is empty or repeats one before it. -/
theorem list_grammar (raw : List Char) :
    ((∃ ss, parse raw = .ok ss) ↔ Accepted (Text.trim raw)) ∧
    (∀ e, parse raw = .error e ↔ Refused (Text.trim raw) e) ∧
    ∀ ss, parse raw = .ok ss → (∀ s, s ∈ ss ↔ s ∈ listed (Text.trim raw)) ∧
      (∀ ps, ps.Perm ((Text.trim raw).splitOn ',') → parse ([','].intercalate ps) = .ok ss) ∧
      parse ss.text.toList = .ok ss := by
  refine ⟨⟨?_, ?_⟩, fun _ => parse_eq_error_iff, ?_⟩
  · rintro ⟨ss, h⟩
    exact (parse_eq_ok_iff.1 h).1
  · intro ha
    obtain ⟨ss, -, hs⟩ := parse_of_accepted ha
    exact ⟨ss, hs⟩
  · intro ss h
    obtain ⟨ha, hm⟩ := parse_eq_ok_iff.1 h
    exact ⟨hm, fun ps hp => ha.parse_of_perm hm hp, parse_text (wellFormed_of_parse h)⟩

theorem list_grammar_spaced :
    parse "\u2003i386,another,amd64\u00a0".toList = .ok (ofList ["amd64", "another", "i386"]) ∧
    parse "another,amd64,i386".toList = .ok (ofList ["amd64", "another", "i386"]) ∧
    parse "amd64,another,i386".toList = .ok (ofList ["amd64", "another", "i386"]) := by
  have h : parse "\u2003i386,another,amd64\u00a0".toList = .ok (ofList ["amd64", "another", "i386"]) := by
    cbv
  obtain ⟨-, hp, ht⟩ := (list_grammar _).2.2 _ h
  refine ⟨h, hp ["another".toList, "amd64".toList, "i386".toList] ?_, ht⟩
  decide

end Selectors

end Recipe
