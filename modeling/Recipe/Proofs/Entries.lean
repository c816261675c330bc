import Mathlib.Data.List.Basic
import Recipe.Entries

universe u

namespace Recipe

section Dups

variable {xs ys : List String}

theorem eraseDups_of_nodup (h : xs.Nodup) : xs.eraseDups = xs := by
  induction xs with
  | nil => rfl
  | cons x xs ih =>
    rw [List.nodup_cons] at h
    have hx : xs.filter (!· == x) = xs := by
      rw [List.filter_eq_self]
      intro y hy
      have hne : y ≠ x := fun h' => h.1 (h' ▸ hy)
      simp [hne]
    rw [List.eraseDups_cons, hx, ih h.2]

theorem nodup_eraseDups (xs : List String) : xs.eraseDups.Nodup := by
  -- on the length, as `eraseDups` goes on with a filtered tail
  induction hn : xs.length using Nat.strongRecOn generalizing xs with
  | ind n ih =>
    cases xs with
    | nil => exact .nil
    | cons x xs =>
      have hlt : (xs.filter (!· == x)).length < n := hn ▸ Nat.lt_succ_of_le (List.length_filter_le ..)
      rw [List.eraseDups_cons, List.nodup_cons]
      exact ⟨by simp, ih _ hlt _ rfl⟩

theorem eraseDups_append_eraseDups (xs ys : List String) :
    (xs.eraseDups ++ ys).eraseDups = (xs ++ ys).eraseDups := by
  rw [List.eraseDups_append, List.eraseDups_append, eraseDups_of_nodup (nodup_eraseDups xs)]
  simp only [List.removeAll, List.elem_eq_mem, List.mem_eraseDups]

end Dups

namespace Entries

variable {α : Type u} {k : String} {v : α} {es fs : Entries α}

theorem mem_keys_insertSorted {l : String} : l ∈ keys (insertSorted k v es) ↔ l = k ∨ l ∈ es.keys := by
  induction es with
  | nil => simp [insertSorted]
  | cons e es ih =>
    simp only [insertSorted]
    split
    · simp
    · split
      · rename_i h
        simp [h]
      · simp [ih, or_left_comm]

theorem eq_or_mem_of_mem_insertSorted {e : String × α} (he : e ∈ insertSorted k v es) : e = (k, v) ∨ e ∈ es := by
  induction es with
  | nil => exact .inl (List.mem_singleton.1 he)
  | cons f es ih =>
    simp only [insertSorted] at he
    split at he
    · exact List.mem_cons.1 he
    · split at he
      · rename_i hl
        rw [hl] at he
        exact (List.mem_cons.1 he).imp_right (List.mem_cons_of_mem _)
      · rcases List.mem_cons.1 he with rfl | he
        · exact .inr List.mem_cons_self
        · exact (ih he).imp_right (List.mem_cons_of_mem _)

theorem pairwise_insertSorted (h : es.keys.Pairwise (· < ·)) :
    (keys (insertSorted k v es)).Pairwise (· < ·) := by
  induction es with
  | nil => simp [insertSorted]
  | cons e es ih =>
    rw [keys_cons, List.pairwise_cons] at h
    simp only [insertSorted]
    split
    · rename_i hlt
      simp only [keys_cons, List.pairwise_cons]
      refine ⟨?_, h⟩
      intro l hl
      rcases List.mem_cons.1 hl with rfl | hl
      · exact hlt
      · exact String.lt_trans hlt (h.1 l hl)
    · split
      · simp only [keys_cons, List.pairwise_cons]
        exact h
      · rename_i hlt hne
        simp only [keys_cons, List.pairwise_cons]
        refine ⟨?_, ih h.2⟩
        intro l hl
        rcases mem_keys_insertSorted.1 hl with rfl | hl
        · exact Std.lt_of_le_of_ne (String.not_lt.1 hlt) hne
        · exact h.1 l hl

theorem insertSorted_perm (h : k ∉ es.keys) : (insertSorted k v es).Perm ((k, v) :: es) := by
  induction es with
  | nil => simp [insertSorted]
  | cons e es ih =>
    rw [keys_cons, List.mem_cons, not_or] at h
    simp only [insertSorted]
    split
    · exact .refl _
    · rw [if_neg (Ne.symm h.1)]
      exact ((ih h.2).cons e).trans (.swap ..)

theorem insertSorted_eq_append (h : ∀ l ∈ es.keys, l < k) : insertSorted k v es = es ++ [(k, v)] := by
  induction es with
  | nil => rfl
  | cons e es ih =>
    have he : e.1 < k := h e.1 List.mem_cons_self
    simp only [insertSorted]
    rw [if_neg (String.lt_asymm he), if_neg (by rintro rfl; exact String.lt_irrefl _ he),
      ih fun l hl => h l (List.mem_cons_of_mem e.1 hl), List.cons_append]

def sort (es : Entries α) : Entries α := es.foldl (fun acc e => insertSorted e.1 e.2 acc) []

theorem pairwise_sort (es : Entries α) : es.sort.keys.Pairwise (· < ·) := by
  have h (acc : Entries α) (ha : acc.keys.Pairwise (· < ·)) :
      (keys (es.foldl (fun acc e => insertSorted e.1 e.2 acc) acc)).Pairwise (· < ·) := by
    induction es generalizing acc with
    | nil => exact ha
    | cons e es ih => exact ih _ (pairwise_insertSorted ha)
  exact h [] .nil

theorem sort_perm (h : es.keys.Nodup) : es.sort.Perm es := by
  have hacc (acc : Entries α) (ha : (acc.keys ++ es.keys).Nodup) :
      (es.foldl (fun acc e => insertSorted e.1 e.2 acc) acc).Perm (acc ++ es) := by
    induction es generalizing acc with
    | nil => rw [List.append_nil]; exact .refl _
    | cons e es ih =>
      rw [keys_cons] at ha
      have he : e.1 ∉ acc.keys := fun hm =>
        (List.nodup_append.1 ha).2.2 _ hm _ List.mem_cons_self rfl
      have hp : (insertSorted e.1 e.2 acc).Perm (e :: acc) := insertSorted_perm he
      have hk : (keys (insertSorted e.1 e.2 acc) ++ keys es).Perm (acc.keys ++ e.1 :: keys es) :=
        ((hp.map Prod.fst).append_right (keys es)).trans List.perm_middle.symm
      refine (ih (List.nodup_cons.1 h).2 _ (hk.nodup_iff.2 ha)).trans ?_
      exact (hp.append_right es).trans List.perm_middle.symm
  exact hacc [] h

theorem sort_eq_self (h : es.keys.Pairwise (· < ·)) : es.sort = es := by
  have hacc (acc : Entries α) (ha : (acc.keys ++ es.keys).Pairwise (· < ·)) :
      es.foldl (fun acc e => insertSorted e.1 e.2 acc) acc = acc ++ es := by
    induction es generalizing acc with
    | nil => rw [List.append_nil]; rfl
    | cons e es ih =>
      rw [keys_cons, List.append_cons] at ha
      have he : ∀ l ∈ acc.keys, l < e.1 := fun l hl =>
        (List.pairwise_append.1 (List.pairwise_append.1 ha).1).2.2 l hl e.1 (List.mem_singleton_self _)
      rw [List.foldl_cons, insertSorted_eq_append he, ih (List.pairwise_cons.1 h).2]
      · exact List.append_assoc acc [e] es
      · rwa [keys_append]
  exact hacc [] h

theorem keys_filter (p : String → Bool) (es : Entries α) :
    keys (es.filter fun e => p e.1) = es.keys.filter p := by
  rw [keys, keys, List.filter_map]
  rfl

theorem keys_union (h : es.keys.Nodup) (h' : fs.keys.Nodup) :
    keys (union es fs) = (es.keys ++ fs.keys).eraseDups := by
  rw [List.eraseDups_append, eraseDups_of_nodup h, List.removeAll, eraseDups_of_nodup (h'.filter _), union,
    keys_append, keys_filter fun k => k ∉ es.keys]
  simp

theorem get?_filter {p : String → Bool} (h : p k) : get? (es.filter fun e => p e.1) k = es.get? k := by
  induction es with
  | nil => rfl
  | cons e es ih =>
    simp only [get?] at ih ⊢
    rw [List.filter_cons]
    split
    · rw [List.lookup_cons, List.lookup_cons, ih]
    · rename_i he
      have hk : (k == e.1) = false := by
        rw [beq_eq_false_iff_ne]
        rintro rfl
        exact he h
      rw [ih, List.lookup_cons, hk]

theorem get?_of_mem (h : es.keys.Nodup) (hm : (k, v) ∈ es) : es.get? k = some v := by
  induction es with
  | nil => cases hm
  | cons e es ih =>
    rw [keys_cons, List.nodup_cons] at h
    rw [get?, List.lookup_cons]
    rcases List.mem_cons.1 hm with rfl | hm
    · rw [beq_self_eq_true]
    · have hk : k ∈ keys es := List.mem_map_of_mem hm
      have hne : (k == e.1) = false := by
        rw [beq_eq_false_iff_ne]
        rintro rfl
        exact h.1 hk
      rw [hne]
      exact ih h.2 hm

theorem mem_of_get? (h : es.get? k = some v) : (k, v) ∈ es := by
  obtain ⟨before, after, rfl, -⟩ := List.lookup_eq_some_iff.1 h
  exact List.mem_append_right before List.mem_cons_self

theorem not_mem_keys_of_get? (h : es.get? k = none) : k ∉ es.keys := by
  rw [get?, List.lookup_eq_none_iff] at h
  intro hk
  obtain ⟨e, he, rfl⟩ := List.mem_map.1 hk
  simpa using h e he

theorem get?_union (es fs : Entries α) (k : String) :
    get? (union es fs) k = (es.get? k).or (fs.get? k) := by
  have happ : get? (union es fs) k = (es.get? k).or (get? (fs.filter fun e => e.1 ∉ es.keys) k) :=
    List.lookup_append
  rw [happ]
  cases h : es.get? k with
  | some v => rfl
  | none =>
    rw [Option.none_or, Option.none_or]
    exact get?_filter (p := fun k => k ∉ es.keys) (by simpa using not_mem_keys_of_get? h)

variable {ms : List (Entries α)}

theorem keys_foldl_union (h : es.keys.Nodup) (hms : ∀ m ∈ ms, m.keys.Nodup) :
    keys (ms.foldl union es) = (es.keys ++ ms.flatMap keys).eraseDups := by
  induction ms generalizing es with
  | nil =>
    rw [List.flatMap_nil, List.append_nil, eraseDups_of_nodup h]
    rfl
  | cons m ms ih =>
    rw [List.forall_mem_cons] at hms
    have hk := keys_union h hms.1
    rw [List.foldl_cons, ih (hk ▸ nodup_eraseDups _) hms.2, hk, eraseDups_append_eraseDups, List.flatMap_cons,
      List.append_assoc]

theorem get?_foldl_union (es : Entries α) (ms : List (Entries α)) (k : String) :
    get? (ms.foldl union es) k = (es.get? k).or (ms.findSome? (·.get? k)) := by
  induction ms generalizing es with
  | nil =>
    rw [List.findSome?_nil, Option.or_none]
    rfl
  | cons m ms ih =>
    rw [List.foldl_cons, ih, get?_union, Option.or_assoc, List.findSome?_cons]
    cases m.get? k <;> rfl

end Entries

end Recipe
