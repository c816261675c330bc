import Recipe.Json.Read
import Recipe.Json.Render
import Recipe.Proofs.Entries
import Recipe.Proofs.Json.Lexeme

namespace Recipe

namespace Value

mutual

def sortKeys : Value → Value
  | .unset => .unset
  | .scalar s => .scalar s
  | .sequence vs => .sequence (sortKeysList vs)
  | .mapping es => .mapping (Entries.sort (sortKeysEntries es))

def sortKeysList : List Value → List Value
  | [] => []
  | v :: vs => v.sortKeys :: sortKeysList vs

def sortKeysEntries : List (String × Value) → Entries Value
  | [] => []
  | (k, v) :: es => (k, v.sortKeys) :: sortKeysEntries es

end

mutual

def levels : Value → Nat
  | .unset | .scalar _ => 0
  | .sequence vs => levelsList vs + 1
  | .mapping es => levelsEntries es + 1

def levelsList : List Value → Nat
  | [] => 0
  | v :: vs => max v.levels (levelsList vs)

def levelsEntries : List (String × Value) → Nat
  | [] => 0
  | (_, v) :: es => max v.levels (levelsEntries es)

end

end Value

namespace Json.State

def steps : State → List Token → Except Error State
  | s, [] => .ok s
  | s, t :: ts => s.step ⟨[], .ok t⟩ >>= fun s => s.steps ts

theorem steps_append (s : State) (ts us : List Token) :
    s.steps (ts ++ us) = s.steps ts >>= fun s => s.steps us := by
  induction ts generalizing s with
  | nil => rfl
  | cons t ts ih =>
    rw [List.cons_append, steps, steps]
    cases s.step ⟨[], .ok t⟩ with
    | error e => rfl
    | ok s' => exact ih s'

theorem value_of_bare {stack : List Frame} {s' : State} {l : Lexeme} {t : Token} (hl : l.token = .ok t)
    (h : value stack ⟨[], .ok t⟩ = .ok s') : value stack l = .ok s' := by
  rw [value, hl]
  cases t with
  | openArray | openObject =>
    change (if maxDepth ≤ stack.length then _ else _) = _ at h
    change (if maxDepth ≤ stack.length then _ else _) = _
    split at h
    · cases h
    · rwa [if_neg (by assumption)]
  | null | bool | integer | float | string => exact h
  | closeArray | closeObject | comma | colon => cases h

theorem step_of_bare {s s' : State} {l : Lexeme} {t : Token} (hl : l.token = .ok t)
    (h : s.step ⟨[], .ok t⟩ = .ok s') : s.step l = .ok s' := by
  obtain ⟨stack, want⟩ := s
  cases want with
  | value => exact value_of_bare hl h
  | item vs =>
    rw [step] at h ⊢
    dsimp only at h ⊢
    rw [hl]
    cases t with
    | closeArray =>
      dsimp only at h ⊢
      split at h
      · rwa [if_pos (by assumption)]
      · cases h
    | null | bool | integer | float | string | openArray | openObject | closeObject | comma | colon =>
      exact value_of_bare hl h
  | key es =>
    rw [step] at h ⊢
    dsimp only at h ⊢
    rw [hl]
    cases t with
    | closeObject =>
      dsimp only at h ⊢
      split at h
      · rwa [if_pos (by assumption)]
      · cases h
    | string => exact h
    | null | bool | integer | float | openArray | closeArray | openObject | comma | colon => cases h
  | colon es k =>
    rw [step] at h ⊢
    dsimp only at h ⊢
    rw [hl]
    cases t <;> first | exact h | cases h
  | after v =>
    rw [step] at h ⊢
    dsimp only at h ⊢
    rw [hl]
    cases stack with
    | nil => cases h
    | cons f stack => cases f <;> cases t <;> first | exact h | cases h

theorem run_of_steps {s s' : State} {ts : List Token} {ls : List Lexeme}
    (hl : ls.map Lexeme.token = ts.map .ok) (h : s.steps ts = .ok s') : s.run ls = s'.finish := by
  induction ts generalizing s ls with
  | nil =>
    cases h
    rw [List.map_nil, List.map_eq_nil_iff] at hl
    rw [hl, run]
  | cons t ts ih =>
    obtain ⟨l, ls, rfl, ht, hls⟩ := List.map_eq_cons_iff.1 hl
    obtain ⟨u, hu, h⟩ := Except.bind_eq_ok.1 h
    rw [run, step_of_bare ht hu]
    exact ih hls h

theorem steps_item (stack : List Frame) (acc : List Value) (v : Value) :
    steps ⟨stack, .item acc⟩ v.tokens = steps ⟨.array acc :: stack, .value⟩ v.tokens := by
  cases v with
  | scalar s => cases s <;> rfl
  | unset | sequence | mapping => rfl

mutual

theorem steps_tokens (stack : List Frame) : ∀ v : Value, stack.length + v.levels ≤ maxDepth →
    steps ⟨stack, .value⟩ v.tokens = .ok ⟨stack, .after v.sortKeys⟩
  | .unset, _ => rfl
  | .scalar s, _ => by cases s <;> rfl
  | .sequence vs, hd => by
    rw [Value.levels] at hd
    have ho : step ⟨stack, .value⟩ ⟨[], .ok .openArray⟩ = .ok ⟨stack, .item []⟩ :=
      if_neg (show ¬ maxDepth ≤ stack.length by omega)
    rw [Value.tokens, List.cons_append, steps, ho]
    exact steps_items stack [] vs (.inl rfl) hd
  | .mapping es, hd => by
    rw [Value.levels] at hd
    have ho : step ⟨stack, .value⟩ ⟨[], .ok .openObject⟩ = .ok ⟨stack, .key []⟩ :=
      if_neg (show ¬ maxDepth ≤ stack.length by omega)
    rw [Value.tokens, List.cons_append, steps, ho]
    exact steps_entries stack [] es (.inl rfl) hd

theorem steps_items (stack : List Frame) (acc : List Value) : ∀ vs : List Value,
    acc = [] ∨ vs ≠ [] → stack.length + (Value.levelsList vs + 1) ≤ maxDepth →
    steps ⟨stack, .item acc⟩ (Value.itemTokens vs ++ [.closeArray]) =
      .ok ⟨stack, .after (.sequence (acc.reverse ++ Value.sortKeysList vs))⟩
  | [], ha, _ => by
    obtain rfl := ha.resolve_right (by simp)
    rfl
  | [v], _, hd => by
    rw [Value.levelsList] at hd
    have hv := steps_tokens (.array acc :: stack) v (by simp only [List.length_cons]; omega)
    rw [Value.itemTokens, steps_append, steps_item, hv, Value.sortKeysList, Value.sortKeysList,
      ← List.reverse_cons]
    rfl
  | v :: w :: vs, _, hd => by
    rw [Value.levelsList] at hd
    have hv := steps_tokens (.array acc :: stack) v (by simp only [List.length_cons]; omega)
    -- after a comma a bracket is refused, so the items that are left must be some
    have hvs := steps_items stack (v.sortKeys :: acc) (w :: vs) (.inr (by simp)) (by omega)
    rw [List.reverse_cons, List.append_assoc] at hvs
    rw [Value.itemTokens, List.append_assoc, steps_append, steps_item, hv, Value.sortKeysList]
    exact hvs

theorem steps_entries (stack : List Frame) (acc : Entries Value) : ∀ es : List (String × Value),
    acc = [] ∨ es ≠ [] → stack.length + (Value.levelsEntries es + 1) ≤ maxDepth →
    steps ⟨stack, .key acc⟩ (Value.entryTokens es ++ [.closeObject]) =
      .ok ⟨stack, .after (.mapping
        ((Value.sortKeysEntries es).foldl (fun acc e => Entries.insertSorted e.1 e.2 acc) acc))⟩
  | [], ha, _ => by
    obtain rfl := ha.resolve_right (by simp)
    rfl
  | [(k, v)], _, hd => by
    rw [Value.levelsEntries] at hd
    have hv := steps_tokens (.object acc k :: stack) v (by simp only [List.length_cons]; omega)
    change steps ⟨.object acc k :: stack, .value⟩ (v.tokens ++ _) = _
    rw [steps_append, hv]
    rfl
  | (k, v) :: e :: es, _, hd => by
    rw [Value.levelsEntries] at hd
    have hv := steps_tokens (.object acc k :: stack) v (by simp only [List.length_cons]; omega)
    have hes := steps_entries stack (Entries.insertSorted k v.sortKeys acc) (e :: es) (.inr (by simp)) (by omega)
    rw [Value.entryTokens, List.append_assoc]
    change steps ⟨.object acc k :: stack, .value⟩ (v.tokens ++ _) = _
    rw [steps_append, hv]
    exact hes

end

end Json.State

namespace Value

open Json (Token Separated EndsNumber)

mutual

theorem float_mem_scalars {x : Binary64} : ∀ v : Value, .float x ∈ v.tokens → .float x ∈ v.scalars
  | .unset, h => by simp [tokens] at h
  | .scalar s, h => by
    obtain h := List.mem_singleton.1 h
    cases s <;> cases h
    exact List.mem_singleton_self _
  | .sequence vs, h => by
    simp only [tokens, List.cons_append, List.mem_cons, List.mem_append, reduceCtorEq, false_or,
      List.not_mem_nil, or_false] at h
    exact float_mem_scalarsList vs h
  | .mapping es, h => by
    simp only [tokens, List.cons_append, List.mem_cons, List.mem_append, reduceCtorEq, false_or,
      List.not_mem_nil, or_false] at h
    exact float_mem_scalarsEntries es h

theorem float_mem_scalarsList {x : Binary64} :
    ∀ vs : List Value, .float x ∈ itemTokens vs → .float x ∈ scalarsList vs
  | [], h => by cases h
  | [v], h => List.mem_append_left _ (float_mem_scalars v h)
  | v :: w :: vs, h => by
    simp only [itemTokens, List.mem_append, List.mem_cons, reduceCtorEq, false_or] at h
    exact List.mem_append.2 (h.imp (float_mem_scalars v) (float_mem_scalarsList (w :: vs)))

theorem float_mem_scalarsEntries {x : Binary64} :
    ∀ es : List (String × Value), .float x ∈ entryTokens es → .float x ∈ scalarsEntries es
  | [], h => by cases h
  | [(k, v)], h => by
    simp only [entryTokens, List.mem_cons, reduceCtorEq, false_or] at h
    exact List.mem_append_left _ (float_mem_scalars v h)
  | (k, v) :: e :: es, h => by
    simp only [entryTokens, List.cons_append, List.mem_append, List.mem_cons, reduceCtorEq,
      false_or] at h
    exact List.mem_append.2 (h.imp (float_mem_scalars v) (float_mem_scalarsEntries (e :: es)))

end

theorem endsNumber_of_text {t : Token} {ts : List Token}
    (ht : t = .comma ∨ t = .closeArray ∨ t = .closeObject) :
    EndsNumber ((t :: ts).flatMap Token.text) := by
  intro c hc
  rcases ht with rfl | rfl | rfl
  all_goals
    cases hc
    decide

mutual

theorem separated_tokens (us : List Token) (hs : Separated us) (he : EndsNumber (us.flatMap Token.text)) :
    ∀ v : Value, Separated (v.tokens ++ us)
  | .unset => ⟨nofun, hs⟩
  | .scalar s => ⟨fun _ _ => he, hs⟩
  | .sequence vs => by
    rw [tokens, List.cons_append, List.cons_append, List.append_assoc]
    have he : EndsNumber ((.closeArray :: us).flatMap Token.text) := endsNumber_of_text (by simp)
    exact ⟨nofun, separated_itemTokens (.closeArray :: us) ⟨nofun, hs⟩ he vs⟩
  | .mapping es => by
    rw [tokens, List.cons_append, List.cons_append, List.append_assoc]
    have he : EndsNumber ((.closeObject :: us).flatMap Token.text) := endsNumber_of_text (by simp)
    exact ⟨nofun, separated_entryTokens (.closeObject :: us) ⟨nofun, hs⟩ he es⟩

theorem separated_itemTokens (us : List Token) (hs : Separated us)
    (he : EndsNumber (us.flatMap Token.text)) : ∀ vs : List Value, Separated (itemTokens vs ++ us)
  | [] => hs
  | [v] => separated_tokens us hs he v
  | v :: w :: vs => by
    rw [itemTokens, List.append_assoc]
    exact separated_tokens (.comma :: _) ⟨nofun, separated_itemTokens us hs he (w :: vs)⟩
      (endsNumber_of_text (.inl rfl)) v

theorem separated_entryTokens (us : List Token) (hs : Separated us)
    (he : EndsNumber (us.flatMap Token.text)) :
    ∀ es : List (String × Value), Separated (entryTokens es ++ us)
  | [] => hs
  | [(k, v)] => ⟨nofun, nofun, separated_tokens us hs he v⟩
  | (k, v) :: e :: es => by
    rw [entryTokens, List.append_assoc]
    exact ⟨nofun, nofun, separated_tokens (.comma :: _) ⟨nofun, separated_entryTokens us hs he (e :: es)⟩
      (endsNumber_of_text (.inl rfl)) v⟩

end

theorem lexemes_tokens {v : Value} (hf : ∀ x, .float x ∉ v.scalars) :
    (Json.lexemes (v.tokens.flatMap Token.text)).map Json.Lexeme.token = v.tokens.map .ok := by
  have hs : Separated v.tokens := List.append_nil v.tokens ▸
    separated_tokens [] trivial (by rintro c hc; cases hc) v
  exact Json.lexemes_text (fun x h => hf x (float_mem_scalars v h)) hs

theorem read_render {v : Value} (hf : ∀ x, .float x ∉ v.scalars) (hd : v.levels ≤ Json.maxDepth) :
    Json.read v.render = .ok v.sortKeys := by
  have hr := Json.State.run_of_steps (lexemes_tokens hf) (Json.State.steps_tokens [] v (by simpa using hd))
  rw [Json.read, render, String.toList_ofList, Json.readChars, hr]
  rfl

end Value

end Recipe
