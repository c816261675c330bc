import Recipe.Text.Blank

namespace Recipe.Text

section Pieces

variable {p : Char → Bool} {cs : List Char}

theorem pieces_eq_splitOnP (p : Char → Bool) (cs : List Char) : pieces p cs = cs.splitOnP p := by
  induction cs with
  | nil => rfl
  | cons c cs ih =>
    rw [pieces, List.splitOnP_cons_eq_if_modifyHead, ih]
    split
    · rfl
    · split
      · rename_i h
        exact (List.splitOnP_ne_nil p cs h).elim
      · rename_i h
        rw [h, List.modifyHead_cons]

theorem of_mem_pieces {w : List Char} {c : Char} (hw : w ∈ pieces p cs) (hc : c ∈ w) :
    c ∈ cs ∧ p c = false := by
  induction cs generalizing w with
  | nil =>
    obtain rfl : w = [] := by simpa [pieces] using hw
    cases hc
  | cons d ds ih =>
    rw [pieces] at hw
    split at hw
    · rcases List.mem_cons.1 hw with rfl | hw
      · cases hc
      · exact ⟨List.mem_cons_of_mem d (ih hw hc).1, (ih hw hc).2⟩
    · rename_i hd
      have hd : p d = false := by simpa using hd
      split at hw
      · rename_i he
        exact (pieces_ne_nil p ds he).elim
      · rename_i u us he
        rcases List.mem_cons.1 hw with rfl | hw
        · rcases List.mem_cons.1 hc with rfl | hc
          · exact ⟨List.mem_cons_self, hd⟩
          · have := ih (he ▸ List.mem_cons_self) hc
            exact ⟨List.mem_cons_of_mem d this.1, this.2⟩
        · have := ih (he ▸ List.mem_cons_of_mem u hw) hc
          exact ⟨List.mem_cons_of_mem d this.1, this.2⟩

theorem pieces_eq_singleton (h : ∀ c ∈ cs, p c = false) : pieces p cs = [cs] := by
  rw [pieces_eq_splitOnP, List.splitOnP_eq_singleton h]

theorem mem_or_of_mem_intercalate {sep : List Char} {ps : List (List Char)} {c : Char}
    (h : c ∈ sep.intercalate ps) : c ∈ sep ∨ ∃ p ∈ ps, c ∈ p := by
  induction ps with
  | nil => cases h
  | cons p ps ih =>
    cases ps with
    | nil => exact .inr ⟨p, List.mem_cons_self, by simpa [List.intercalate] using h⟩
    | cons q ps =>
      have hs : sep.intercalate (p :: q :: ps) = p ++ (sep ++ sep.intercalate (q :: ps)) := by
        simp [List.intercalate]
      rw [hs, List.mem_append, List.mem_append] at h
      obtain h | h | h := h
      · exact .inr ⟨p, List.mem_cons_self, h⟩
      · exact .inl h
      · obtain h | ⟨r, hr, h⟩ := ih h
        · exact .inl h
        · exact .inr ⟨r, List.mem_cons_of_mem p hr, h⟩

end Pieces

variable {cs ds : List Char} {c : Char}

theorem words_append (hc : isBlank c) : words (cs ++ c :: ds) = words cs ++ words ds := by
  simp only [words, pieces_eq_splitOnP]
  rw [List.splitOnP_append_cons cs ds hc, List.filter_append]

theorem words_of_not_blank (hn : cs ≠ []) (h : ∀ c ∈ cs, isBlank c = false) : words cs = [cs] := by
  rw [words, pieces_eq_singleton h]
  simp [hn]

theorem mem_of_mem_trim (h : c ∈ trim cs) : c ∈ cs := by
  rw [trim, List.mem_reverse] at h
  have h := (List.dropWhile_sublist _).subset h
  rw [List.mem_reverse] at h
  exact (List.dropWhile_sublist _).subset h

theorem dropWhile_eq_self (h : ∀ c ∈ cs.head?, isBlank c = false) : cs.dropWhile isBlank = cs := by
  cases cs with
  | nil => rfl
  | cons c cs => rw [List.dropWhile_cons_of_neg (by simp [h c rfl])]

theorem trim_eq_self (hh : ∀ c ∈ cs.head?, isBlank c = false) (hl : ∀ c ∈ cs.getLast?, isBlank c = false) :
    trim cs = cs := by
  rw [trim, dropWhile_eq_self hh, dropWhile_eq_self (by rwa [List.head?_reverse]), List.reverse_reverse]

theorem trim_of_not_blank (h : ∀ c ∈ cs, isBlank c = false) : trim cs = cs :=
  trim_eq_self (fun c hc => h c (List.mem_of_head? hc)) fun c hc => h c (List.mem_of_getLast? hc)

theorem trim_cons (hc : isBlank c) : trim (c :: cs) = trim cs := by
  rw [trim, List.dropWhile_cons_of_pos hc, trim]

end Recipe.Text
