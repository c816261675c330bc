import Mathlib.Data.List.Nodup
import Recipe.Proofs.List
import Recipe.Proofs.Statement.Pieces
import Recipe.Proofs.Statement.Sorted

namespace Recipe

open Clause (classify)

namespace Statement

def Interchanges (L : Leniency) (o : Options) (v : Value) : Prop :=
  ∃ s t, ReadAs o v s ∧ ReadAs o v.sortKeys t ∧ Similar L s t

/-- A part of a recipe that is read as the same tree in both orders, wherever it stands. Clauses that stand
as an item of a sequence are not read by themselves, but each of their bodies is. -/
inductive Keeps (L : Leniency) (o : Options) : Value → Prop
  | free : v.reserves = false → Keeps L o v
  | value : Interchanges L o v → Keeps L o v
  | clauses : (Entries.keys es).Pairwise (· < ·) → (∀ e ∈ es, Keeps L o e.2) → Keeps L o (.mapping es)

variable {L : Leniency} {o : Options} {v : Value} {s t : Statement} {es fs : List (String × Value)}
  {ps qs : List Piece}

theorem EntryPiece.classify_eq {e : String × Value} {p : Piece} (h : EntryPiece o e p) :
    classify e.1 = .ok p.key := by
  cases h with
  | clause hk _ | fail hk _ | body hk _ => exact hk

theorem EntryPiece.key_inj {e f : String × Value} {p q : Piece} (hp : EntryPiece o e p)
    (hq : EntryPiece o f q) (ha : p.Apart q) (h : classify e.1 = classify f.1) : e.1 = f.1 := by
  have hpq : p.key = q.key := by
    rw [hp.classify_eq, hq.classify_eq] at h
    exact Except.ok.inj h
  have he := hp.classify_eq
  have hf := hq.classify_eq
  rw [← hpq] at hf
  cases hp with
  | clause hk _ =>
    cases ha _ rfl hpq.symm
    rw [Clause.eq_tryWord_of_classify he, Clause.eq_tryWord_of_classify hf]
  | fail hk _ | body hk _ => rw [Clause.eq_elseWord_of_classify he, Clause.eq_elseWord_of_classify hf]

theorem nodup_classify (h : List.Forall₂ (EntryPiece o) es ps) (ha : ps.Pairwise Piece.Apart)
    (hn : (Entries.keys es).Nodup) : ((Entries.keys es).map classify).Nodup := by
  have hes : es.Pairwise fun e f => classify e.1 = classify f.1 → e.1 = f.1 :=
    pairwise_of_forall₂ h ha fun _ _ _ _ hp hq => hp.key_inj hq
  have hk : (Entries.keys es).Pairwise fun k l => classify k = classify l → k = l :=
    List.pairwise_map.2 hes
  apply List.pairwise_map.2
  exact hn.imp₂ (fun k l hne h he => hne (h he)) hk

theorem classify_keys_eq (hes : List.Forall₂ (EntryPiece o) es ps) (hfs : List.Forall₂ (EntryPiece o) fs qs)
    (h : List.Forall₂ (Piece.Similar L) ps qs) :
    (Entries.keys es).map classify = (Entries.keys fs).map classify := by
  induction hes generalizing fs qs with
  | nil =>
    cases h
    cases hfs
    rfl
  | cons hp _ ih =>
    cases h with
    | cons hpq h =>
      cases hfs with
      | cons hq hfs =>
        simp only [Entries.keys_cons, List.map_cons, ih hfs h, hp.classify_eq, hq.classify_eq, hpq.key_eq]

theorem keys_sorted (hes : List.Forall₂ (EntryPiece o) es ps)
    (hfs : List.Forall₂ (EntryPiece o) (Entries.sort (Value.sortKeysEntries es)) qs)
    (h : List.Forall₂ (Piece.Similar L) ps qs) (ha : ps.Pairwise Piece.Apart)
    (hn : (Entries.keys es).Nodup) : (Entries.keys es).Pairwise (· < ·) := by
  -- the keys agree as they are read, and keys of one mapping that are read alike are one key
  have hk : Entries.keys es = Entries.keys (Entries.sort (Value.sortKeysEntries es)) := by
    apply eq_of_map_eq _ (classify_keys_eq hes hfs h)
    intro k hk l hl
    exact List.inj_on_of_nodup_map (nodup_classify hes ha hn) hk
      ((Value.keys_sort_perm hn).mem_iff.1 hl)
  rw [hk]
  exact Entries.pairwise_sort _

theorem reserves_of_isEmptyElse (h : isEmptyElse v) : v.reserves = false := by
  rcases isEmptyElse_iff.1 h with rfl | rfl <;> rfl

theorem entries_keep (hes : List.Forall₂ (EntryPiece o) es ps)
    (hfs : List.Forall₂ (EntryPiece o) (Value.sortKeysEntries es) qs)
    (h : List.Forall₂ (Piece.Similar L) ps qs) : ∀ e ∈ es, Keeps L o e.2 := by
  induction es generalizing ps qs with
  | nil => simp
  | cons e es ih =>
    cases hes with
    | cons hp hes =>
      cases hfs with
      | cons hq hfs =>
        cases h with
        | cons hpq h =>
          refine List.forall_mem_cons.2 ⟨?_, ih hes hfs h⟩
          cases hpq with
          | fail =>
            cases hp with
            | fail _ he => exact .free (reserves_of_isEmptyElse he)
          | clause hst =>
            cases hp with
            | clause _ hs =>
              cases hq with
              | clause _ ht => exact .value ⟨_, _, hs, ht, hst⟩
          | body hst =>
            cases hp with
            | body _ hs =>
              cases hq with
              | body _ ht => exact .value ⟨_, _, hs, ht, hst⟩
          | literal _ => cases hp

theorem clauses_keep (hes : List.Forall₂ (EntryPiece o) es ps)
    (hfs : List.Forall₂ (EntryPiece o) (Entries.sort (Value.sortKeysEntries es)) qs)
    (h : List.Forall₂ (Piece.Similar L) ps qs) (ha : ps.Pairwise Piece.Apart)
    (hn : (Entries.keys es).Nodup) :
    (Entries.keys es).Pairwise (· < ·) ∧ ∀ e ∈ es, Keeps L o e.2 := by
  have hk := keys_sorted hes hfs h ha hn
  rw [Value.sort_sortKeysEntries hk] at hfs
  exact ⟨hk, entries_keep hes hfs h⟩

theorem ItemPieces.keeps (hv : ItemPieces o v ps) (hw : ItemPieces o v.sortKeys qs) (hd : v.Distinct) :
    ps.length = qs.length ∧
      (List.Forall₂ (Piece.Similar L) ps qs → ps.Pairwise Piece.Apart → Keeps L o v) := by
  have hl := (Value.similar_sortKeys v hd).isLiteralItem_eq
  cases hv with
  | fail =>
    refine ⟨?_, fun _ _ => .free rfl⟩
    cases hw with
    | fail | literal => rfl
  | literal hv hs =>
    rw [hv] at hl
    generalize hv' : v.sortKeys = w at hw hl
    cases hw with
    | fail =>
      refine ⟨rfl, fun h _ => ?_⟩
      cases h with
      | cons hpq _ => cases hpq
    | literal _ ht =>
      refine ⟨rfl, fun h _ => ?_⟩
      cases h with
      | cons hpq _ =>
        cases hpq with
        | literal hst => exact .value ⟨_, _, hs, hv' ▸ ht, hst⟩
    | clauses hr => simp [isLiteralItem, hr] at hl
  | clauses hr hes =>
    rw [Value.sortKeys] at hw hl
    cases hw with
    | literal hw =>
      rw [← hl] at hw
      simp [isLiteralItem, hr] at hw
    | clauses _ hfs =>
      refine ⟨?_, fun h ha => ?_⟩
      · have hp := Entries.sort_perm (Value.keys_sortKeysEntries _ ▸ hd.1)
        rw [← hes.length_eq, ← hfs.length_eq, hp.length_eq, Value.length_sortKeysEntries]
      · obtain ⟨hk, hes⟩ := clauses_keep hes hfs h ha hd.1
        exact .clauses hk hes

theorem items_keep {vs : List Value} {pss qss : List (List Piece)}
    (hvs : List.Forall₂ (ItemPieces o) vs pss)
    (hws : List.Forall₂ (ItemPieces o) (Value.sortKeysList vs) qss)
    (h : List.Forall₂ (Piece.Similar L) pss.flatten qss.flatten)
    (ha : pss.flatten.Pairwise Piece.Apart) (hd : Value.DistinctList vs) :
    ∀ v ∈ vs, Keeps L o v := by
  induction vs generalizing pss qss with
  | nil => simp
  | cons v vs ih =>
    cases hvs with
    | cons hv hvs =>
      cases hws with
      | cons hw hws =>
        obtain ⟨hl, hk⟩ := hv.keeps hw hd.1
        obtain ⟨h, hs⟩ := forall₂_of_append h hl
        obtain ⟨ha, has, -⟩ := List.pairwise_append.1 ha
        exact List.forall_mem_cons.2 ⟨hk h ha, ih hvs hws hs has hd.2⟩

theorem ReadsEntries.exists_of_mem {d : Nat} {g : Guard} {es : List (String × Value)}
    {fs : List (String × Statement)} {g' : Guard} {e : String × Value} :
    ReadsEntries o d g es fs g' → e ∈ es → ∃ s, (e.1, s) ∈ fs ∧ ReadAs o e.2 s
  | .cons hs hi, he => by
    rcases List.mem_cons.1 he with rfl | he
    · exact ⟨_, List.mem_cons_self, _, _, _, hs⟩
    · obtain ⟨s, hm, hs⟩ := hi.exists_of_mem he
      exact ⟨s, List.mem_cons_of_mem _ hm, hs⟩

theorem SimilarEntries.exists_of_mem {fs gs : List (String × Statement)} {k : String} :
    SimilarEntries L fs gs → (k, s) ∈ fs → ∃ t, (k, t) ∈ gs ∧ Similar L s t
  | .cons hst h, hm => by
    rcases List.mem_cons.1 hm with he | hm
    · cases he
      exact ⟨_, List.mem_cons_self, hst⟩
    · obtain ⟨t, hm, ht⟩ := h.exists_of_mem hm
      exact ⟨t, List.mem_cons_of_mem _ hm, ht⟩

theorem Similar.exists_entries {fs : List (String × Statement)} (h : Similar L (.mapping fs) t) :
    ∃ gs ts, t = .mapping ts ∧ SimilarEntries L fs gs ∧ gs.Perm ts := by
  cases h with
  | mapping h => exact ⟨_, _, rfl, h, .refl _⟩
  | unordered _ h hp => exact ⟨_, _, rfl, h, hp⟩

end Statement

namespace Value

theorem mem_sortKeysEntries {es : List (String × Value)} {e : String × Value} (h : e ∈ es) :
    (e.1, e.2.sortKeys) ∈ sortKeysEntries es := by
  induction es with
  | nil => cases h
  | cons f es ih =>
    rcases List.mem_cons.1 h with rfl | h
    · exact List.mem_cons_self
    · exact List.mem_cons_of_mem _ (ih h)

end Value

namespace Statement

open Value (DistinctList DistinctEntries SortedList SortedEntries sortKeysEntries keys_sortKeysEntries
  similar_sortKeys similar_mapping_iff reservesList_eq_false_iff reservesEntries_eq_false_iff
  mem_sortKeysEntries)

variable {L : Leniency} {o : Options} {v : Value} {s : Statement}

theorem plain_entries_keep {es : List (String × Value)} (h : Interchanges L o (.mapping es))
    (hr : hasReserved es = false) (hd : (Value.mapping es).Distinct) : ∀ e ∈ es, Keeps L o e.2 := by
  intro e he
  have hr' := (similar_mapping_iff.1 (similar_sortKeys (.mapping es) hd)).hasReserved_eq
  obtain ⟨s, t, ⟨d, g, g', hs⟩, ⟨d', h, h', ht⟩, hst⟩ := h
  have hc := hs.hasClause_eq
  rw [Value.sortKeys] at ht
  cases hs with
  | single _ hn | clauses _ hn => simp [hr] at hn
  | literal _ _ _ _ =>
    have hes : Value.reserves (.mapping es) = false := hc.symm
    rw [Value.reserves, Bool.or_eq_false_iff] at hes
    exact .free (reservesEntries_eq_false_iff.1 hes.2 e he)
  | mapping _ _ hs _ =>
    obtain ⟨gs, ts, rfl, hgs, hp⟩ := hst.exists_entries
    cases ht with
    | single _ hn => simp [← hr', hr] at hn
    | mapping _ _ ht _ =>
      have hk : (Entries.keys (sortKeysEntries es)).Nodup := keys_sortKeysEntries es ▸ hd.1
      have hsort := Entries.sort_perm hk
      obtain ⟨s, hm, hs⟩ := hs.exists_of_mem he
      obtain ⟨t, hm, hst⟩ := hgs.exists_of_mem hm
      obtain ⟨t', hm', ht'⟩ := ht.exists_of_mem (hsort.mem_iff.2 (mem_sortKeysEntries he))
      have hn : (ts.map Prod.fst).Nodup := by
        rw [ht.keys_eq, (hsort.map Prod.fst).nodup_iff]
        exact hk
      have htt := List.inj_on_of_nodup_map hn (hp.mem_iff.1 hm) hm' rfl
      cases htt
      exact .value ⟨_, _, hs, ht', hst⟩

theorem Keeps.items {vs : List Value} (h : Keeps L o (.sequence vs)) (hd : DistinctList vs) :
    ∀ v ∈ vs, Keeps L o v := by
  cases h with
  | free h => exact fun v hv => .free (reservesList_eq_false_iff.1 h v hv)
  | value h =>
    obtain ⟨s, t, hs, ht, hst⟩ := h
    obtain ⟨pss, hp, hvs⟩ := hs.sequence_parts
    obtain ⟨qss, hq, hws⟩ := ht.sequence_parts
    have hpq := hst.parts
    rw [hp, hq] at hpq
    exact items_keep hvs hws hpq (hp ▸ hs.wellFormed.pairwise_parts) hd

theorem Keeps.entries {es : List (String × Value)} (h : Keeps L o (.mapping es))
    (hd : (Value.mapping es).Distinct) :
    (hasReserved es → (Entries.keys es).Pairwise (· < ·)) ∧ ∀ e ∈ es, Keeps L o e.2 := by
  cases h with
  | free h =>
    rw [Value.reserves, Bool.or_eq_false_iff] at h
    exact ⟨fun hr => by simp [h.1] at hr, fun e he => .free (reservesEntries_eq_false_iff.1 h.2 e he)⟩
  | clauses hk hes => exact ⟨fun _ => hk, hes⟩
  | value h =>
    cases hr : hasReserved es with
    | false => exact ⟨by simp, plain_entries_keep h hr hd⟩
    | true =>
      have hr' := (similar_mapping_iff.1 (similar_sortKeys (.mapping es) hd)).hasReserved_eq
      obtain ⟨s, t, hs, ht, hst⟩ := h
      have hk := clauses_keep (hs.clauses_parts hr) (ht.clauses_parts (hr' ▸ hr)) hst.parts
        hs.wellFormed.pairwise_parts hd.1
      exact ⟨fun _ => hk.1, hk.2⟩

mutual

theorem Keeps.sorted : ∀ v : Value, v.Distinct → Keeps L o v → v.ClausesSorted
  | .unset, _, _ | .scalar _, _, _ => trivial
  | .sequence vs, hd, h => sortedList_of_keeps vs hd (h.items hd)
  | .mapping es, hd, h => ⟨(h.entries hd).1, sortedEntries_of_keeps es hd.2 (h.entries hd).2⟩

theorem sortedList_of_keeps : ∀ vs : List Value, DistinctList vs → (∀ v ∈ vs, Keeps L o v) →
    SortedList hasReserved vs
  | [], _, _ => trivial
  | v :: vs, hd, h =>
    have h := List.forall_mem_cons.1 h
    ⟨Keeps.sorted v hd.1 h.1, sortedList_of_keeps vs hd.2 h.2⟩

theorem sortedEntries_of_keeps : ∀ es : List (String × Value), DistinctEntries es →
    (∀ e ∈ es, Keeps L o e.2) → SortedEntries hasReserved es
  | [], _, _ => trivial
  | (_, v) :: es, hd, h =>
    have h := List.forall_mem_cons.1 h
    ⟨Keeps.sorted v hd.1 h.1, sortedEntries_of_keeps es hd.2 h.2⟩

end

theorem parse_sortKeys_similar_iff (h : parse o v = .ok s) (hd : v.Distinct) :
    (∃ t, parse o v.sortKeys = .ok t ∧ Similar .lenient s t) ↔ v.ClausesSorted := by
  constructor
  · rintro ⟨t, ht, hst⟩
    obtain ⟨g, hs⟩ := parse_eq_ok_iff.1 h
    obtain ⟨g', ht⟩ := parse_eq_ok_iff.1 ht
    exact Keeps.sorted v hd (.value ⟨s, t, ⟨_, _, _, hs⟩, ⟨_, _, _, ht⟩, hst⟩)
  · intro hv
    have hp := parse_alike (o := o) (hv.reordered hd)
    rw [h] at hp
    generalize hw : parse o v.sortKeys = r at hp ⊢
    cases hp with
    | ok hst => exact ⟨_, rfl, hst⟩
    | right hf => exact hf.elim

theorem ReadsClauses.head_clause {d : Nat} {g : Guard} {k : String} {v : Value}
    {es : List (String × Value)} {b : Alternation} {g' : Guard}
    (h : ReadsClauses o d .empty g ((k, v) :: es) b g') : ∃ h, classify k = .ok (.clause h) := by
  cases h with
  | clause hk => exact ⟨_, hk⟩
  | fail _ _ hb | body _ _ _ hb => cases hb

theorem ReadAs.head_clause {k : String} {v : Value} {s : Statement} {es : List (String × Value)}
    (h : ReadAs o (.mapping ((k, v) :: es)) s) (hr : hasReserved ((k, v) :: es)) :
    ∃ h, classify k = .ok (.clause h) := by
  obtain ⟨d, g, g', h⟩ := h
  cases h with
  | single _ _ hi | clauses _ _ hi => exact hi.head_clause
  | literal _ hn | mapping _ hn => simp [hn] at hr

theorem not_readAs_sortKeys_of_else {es : List (String × Value)} {s : Statement}
    (hd : (Value.mapping es).Distinct) (he : Clause.elseWord ∈ Entries.keys es) :
    ¬ ReadAs o (Value.mapping es).sortKeys s := by
  intro h
  have hm := (Value.keys_sort_perm hd.1).mem_iff.2 he
  have hs := Entries.pairwise_sort (Value.sortKeysEntries es)
  rw [Value.sortKeys] at h
  generalize Entries.sort (Value.sortKeysEntries es) = fs at h hm hs
  have hr : hasReserved fs := by
    rw [Value.hasReserved_eq_any, List.any_eq_true]
    exact ⟨_, hm, by decide⟩
  cases fs with
  | nil => cases hm
  | cons f fs =>
    obtain ⟨c, hc⟩ := h.head_clause hr
    rw [Entries.keys_cons] at hm hs
    rcases List.mem_cons.1 hm with hm | hm
    · rw [← hm] at hc
      cases hc
    · exact String.lt_asymm (Clause.elseWord_lt_of_classify hc) ((List.pairwise_cons.1 hs).1 _ hm)

end Statement

end Recipe
