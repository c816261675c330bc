import Recipe.Proofs.Statement.WellFormed
import Recipe.Proofs.Statement.Depth

namespace Recipe

open Clause (elseFail isReserved)

namespace Statement

variable {o : Options}

theorem parseItems_cons (o : Options) (d : Nat) (a : Alternation) (v : Value) (vs : List Value) :
    parseItems o d a (v :: vs) = (parseItems o d a [v] >>= fun b => parseItems o d b vs) := by
  by_cases hl : isLiteralItem v
  · rw [parseItems_literal hl, parseItems_literal hl]
    simp only [parseItems, bind_assoc, pure_bind]
  · cases v with
    | unset => rfl
    | scalar s =>
      have hs : s = .string elseFail := by simpa [isLiteralItem] using hl
      rw [parseItems, if_pos hs, parseItems, if_pos hs]
      simp only [parseItems, bind_assoc, pure_bind]
    | sequence ws => exact absurd rfl hl
    | mapping es =>
      have hr : hasReserved es := by simpa [isLiteralItem] using hl
      rw [parseItems, if_pos hr, parseItems, if_pos hr]
      simp only [parseItems, bind_assoc, pure_bind]

theorem parseItems_append (o : Options) (d : Nat) (a : Alternation) (vs ws : List Value) :
    parseItems o d a (vs ++ ws) = (parseItems o d a vs >>= fun b => parseItems o d b ws) := by
  induction vs generalizing a with
  | nil => rw [List.nil_append, parseItems, pure_bind]
  | cons v vs ih =>
    rw [List.cons_append, parseItems_cons, parseItems_cons o d a v vs, bind_assoc]
    simp only [ih]

theorem parseClauses_cons (o : Options) (d : Nat) (a : Alternation) (e : String × Value)
    (es : List (String × Value)) :
    parseClauses o d a (e :: es) = (parseClauses o d a [e] >>= fun b => parseClauses o d b es) := by
  rw [parseClauses, parseClauses, bind_assoc]
  congr 1
  funext key
  cases key with
  | clause h => simp only [parseClauses, bind_assoc, pure_bind]
  | otherwise =>
    dsimp only
    split <;> simp only [parseClauses, bind_assoc, pure_bind]
  | plain => rfl

def singles (es : List (String × Value)) : List Value := es.map fun e => .mapping [e]

theorem parseItems_singles {es : List (String × Value)} (hr : ∀ e ∈ es, isReserved e.1) (d : Nat)
    (a : Alternation) : parseItems o d a (singles es) = parseClauses o (d + 1) a es := by
  induction es generalizing a with
  | nil => rfl
  | cons e es ih =>
    rw [List.forall_mem_cons] at hr
    have he : hasReserved [e] := by simp [hasReserved, hr.1]
    rw [singles, List.map_cons, parseItems, if_pos he, parseClauses_cons o (d + 1) a e es]
    exact bind_congr (ih hr.2)

theorem hasReserved_of_forall {es : List (String × Value)} (hne : es ≠ [])
    (hr : ∀ e ∈ es, isReserved e.1) : hasReserved es := by
  obtain ⟨e, he⟩ := List.exists_mem_of_ne_nil es hne
  exact List.any_eq_true.2 ⟨e, he, hr e he⟩

theorem parseItems_mapping {es : List (String × Value)} (hne : es ≠ [])
    (hr : ∀ e ∈ es, isReserved e.1) (d : Nat) (a : Alternation) :
    parseItems o d a [.mapping es] = parseItems o d a (singles es) := by
  rw [parseItems, if_pos (hasReserved_of_forall hne hr), parseItems_singles hr]
  simp only [parseItems, bind_pure]

theorem parseValue_singles {es : List (String × Value)} (hne : es ≠ [])
    (hr : ∀ e ∈ es, isReserved e.1) (d : Nat) (vs ws : List Value) :
    parseValue o d (.sequence (vs ++ .mapping es :: ws)) =
      parseValue o d (.sequence (vs ++ singles es ++ ws)) := by
  have h : parseItems o d .empty (vs ++ .mapping es :: ws) =
      parseItems o d .empty (vs ++ singles es ++ ws) := by
    rw [List.append_assoc, parseItems_append, parseItems_append o d .empty vs]
    apply bind_congr
    intro a
    rw [parseItems_cons, parseItems_mapping hne hr, parseItems_append]
  rw [parseValue, parseValue, h]

def ofClauses : List Statement → Statement
  | [s] => s
  | ss => .sequence ss

def parseAlternation (o : Options) (es : List (String × Value)) : Parse (List Statement) := do
  let a ← parseClauses o 0 .empty es
  Parse.ofMalformed a.close

theorem parseValue_clauses {es : List (String × Value)} (hr : hasReserved es) :
    parseValue o 0 (.mapping es) = ofClauses <$> parseAlternation o es := by
  rw [parseValue, Parse.within_eq (Nat.zero_le _), pure_bind, if_pos hr, parseAlternation,
    map_eq_pure_bind, bind_assoc]
  apply bind_congr
  intro a
  apply bind_congr
  intro ss
  split
  · rfl
  · rename_i hne
    rw [ofClauses]
    exact hne

theorem parseValue_wrapped {es : List (String × Value)} (hr : hasReserved es)
    (hd : (Value.mapping es).nesting + 1 ≤ o.maxDepth) :
    parseValue o 0 (.sequence [.mapping es]) = .sequence <$> parseAlternation o es := by
  rw [Value.nesting] at hd
  have hes : parseClauses o 1 .empty es = parseClauses o 0 .empty es :=
    parseClauses_depth rfl .empty es (by omega) (by omega)
  rw [parseValue, Parse.within_eq (Nat.zero_le _), pure_bind, parseItems, if_pos hr, hes,
    parseAlternation, map_eq_pure_bind]
  simp only [parseItems, bind_assoc, bind_pure]

theorem isClause_of_parseAlternation {es : List (String × Value)} {ss : List Statement}
    {g g' : Guard} (h : parseAlternation o es g = .ok (ss, g')) : ∀ s ∈ ss, s.isClause := by
  rw [parseAlternation, Parse.bind_eq_ok] at h
  obtain ⟨a, g₁, ha, h⟩ := h
  have hc := (readsClauses_of_parseClauses es ha).clauses Alternation.clauses_empty
  exact Alternation.clauses_of_close hc (Parse.ofMalformed_eq_ok.1 h).1

end Statement

end Recipe
