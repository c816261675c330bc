import Recipe.Proofs.Value.Similar

namespace Recipe.Json

structure Ordered (es : Entries Value) : Prop where
  keys : es.keys.Pairwise (· < ·)
  values : ∀ e ∈ es, e.2.Distinct

namespace Ordered

variable {es : Entries Value} {k : String} {v : Value}

theorem nil : Ordered [] := ⟨.nil, by simp⟩

theorem insertSorted (h : Ordered es) (hv : v.Distinct) : Ordered (Entries.insertSorted k v es) where
  keys := Entries.pairwise_insertSorted h.keys
  values e he := by
    obtain rfl | he := Entries.eq_or_mem_of_mem_insertSorted he
    · exact hv
    · exact h.values e he

theorem distinct (h : Ordered es) : (Value.mapping es).Distinct :=
  ⟨h.keys.imp String.ne_of_lt, Value.distinctEntries_iff.2 h.values⟩

end Ordered

def Frame.Distinct : Frame → Prop
  | .array vs => ∀ v ∈ vs, v.Distinct
  | .object es _ => Ordered es

def Want.Distinct : Want → Prop
  | .value => True
  | .item vs => ∀ v ∈ vs, v.Distinct
  | .key es | .colon es _ => Ordered es
  | .after v => v.Distinct

namespace State

structure Distinct (s : State) : Prop where
  stack : ∀ f ∈ s.stack, f.Distinct
  want : s.want.Distinct

variable {s s' : State} {stack : List Frame} {l : Lexeme} {v : Value}

theorem distinct_of_scalar {t : Token} (h : t.scalar? = some v) : v.Distinct := by
  cases t <;> cases h <;> trivial

theorem Distinct.value (hs : ∀ f ∈ stack, f.Distinct) (h : value stack l = .ok s') : s'.Distinct := by
  obtain ⟨t, -, h⟩ := Except.bind_eq_ok.1 h
  split at h
  · rename_i v hv
    cases h
    exact ⟨hs, distinct_of_scalar hv⟩
  · split at h <;> cases h
    exact ⟨hs, by simp [Want.Distinct]⟩
  · split at h <;> cases h
    exact ⟨hs, .nil⟩
  · cases h

theorem Distinct.step (hs : s.Distinct) (h : s.step l = .ok s') : s'.Distinct := by
  obtain ⟨stack, want⟩ := s
  obtain ⟨hstack, hwant⟩ := hs
  cases want with
  | value => exact .value hstack h
  | item vs =>
    rw [State.step] at h
    dsimp only at h
    split at h
    · split at h <;> cases h
      exact ⟨hstack, trivial⟩
    · have hf : (Frame.array vs).Distinct := hwant
      exact .value (List.forall_mem_cons.2 ⟨hf, hstack⟩) h
  | key es =>
    rw [State.step] at h
    dsimp only at h
    split at h
    · split at h <;> cases h
      exact ⟨hstack, Ordered.nil.distinct⟩
    · cases h
      exact ⟨hstack, hwant⟩
    · split at h <;> cases h
    · cases h
  | colon es k =>
    rw [State.step] at h
    dsimp only at h
    split at h <;> cases h
    exact ⟨List.forall_mem_cons.2 ⟨hwant, hstack⟩, trivial⟩
  | after v =>
    rw [State.step] at h
    dsimp only at h
    split at h
    · cases h
    · rename_i vs stack
      obtain ⟨hvs, hstack⟩ := List.forall_mem_cons.1 hstack
      have hvs : ∀ w ∈ v :: vs, w.Distinct := List.forall_mem_cons.2 ⟨hwant, hvs⟩
      split at h <;> cases h
      · exact ⟨hstack, hvs⟩
      · exact ⟨hstack, Value.distinctList_iff.2 fun w hw => hvs w (List.mem_reverse.1 hw)⟩
    · rename_i es k stack
      obtain ⟨hes, hstack⟩ := List.forall_mem_cons.1 hstack
      have hes : Ordered (Entries.insertSorted k v es) := Ordered.insertSorted hes hwant
      split at h <;> cases h
      · exact ⟨hstack, hes⟩
      · exact ⟨hstack, hes.distinct⟩

theorem Distinct.finish (hs : s.Distinct) (h : s.finish = .ok v) : v.Distinct := by
  rw [State.finish] at h
  split at h <;> cases h
  rename_i hw
  have hv := hs.want
  rwa [hw] at hv

theorem Distinct.run {ls : List Lexeme} (hs : s.Distinct) (h : s.run ls = .ok v) : v.Distinct := by
  induction ls generalizing s with
  | nil => exact hs.finish h
  | cons l ls ih =>
    obtain ⟨s', hs', h⟩ := Except.bind_eq_ok.1 h
    exact ih (hs.step hs') h

end State

theorem distinct_of_read {text : String} {v : Value} (h : read text = .ok v) : v.Distinct := by
  have hs : State.Distinct ⟨[], .value⟩ := ⟨by simp, trivial⟩
  exact hs.run (Except.mapError_eq_ok.1 h)

end Recipe.Json
