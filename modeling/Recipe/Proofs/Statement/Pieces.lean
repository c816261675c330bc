import Mathlib.Data.List.Forall2
import Recipe.Proofs.Statement.Similar
import Recipe.Proofs.Statement.WellFormed

/-! A tree in pieces: what each item of a sequence and each entry of a mapping of clauses adds to the
alternation it is read into. -/

namespace Recipe

open Clause (Head Key classify elseFail)

inductive Piece
  | clause : Head → Statement → Piece
  | branch : Branch → Piece
  | literal : Statement → Piece

namespace Piece

def key : Piece → Key
  | .clause h _ => .clause h
  | .branch _ => .otherwise
  | .literal _ => .plain

def Apart (p q : Piece) : Prop := ∀ h, p.key = .clause h → q.key = .clause h → h = .attempt

inductive Similar (L : Leniency) : Piece → Piece → Prop
  | clause : Statement.Similar L s t → Similar L (.clause h s) (.clause h t)
  | fail : Similar L (.branch .fail) (.branch .fail)
  | body : Statement.Similar L s t → Similar L (.branch (.body s)) (.branch (.body t))
  | literal : Statement.Similar L s t → Similar L (.literal s) (.literal t)

theorem Similar.key_eq {L : Leniency} {p q : Piece} (h : p.Similar L q) : p.key = q.key := by
  cases h <;> rfl

end Piece

namespace Statement

variable {L : Leniency} {s t : Statement} {ss ts : List Statement}

def pieces : Statement → List Piece
  | .clause h b bs => .clause h b :: bs.map .branch
  | s => [.literal s]

def parts : Statement → List Piece
  | .sequence ss => ss.flatMap pieces
  | s => s.pieces

theorem pieces_of_head?_eq_none (h : s.head? = none) : s.pieces = [.literal s] := by
  cases s with
  | clause => cases h
  | leaf | sequence | mapping => rfl

theorem head?_of_mem_pieces {p : Piece} {h : Head} (hp : p ∈ s.pieces) (hk : p.key = .clause h) :
    s.head? = some h := by
  cases s with
  | clause k b bs =>
    rcases List.mem_cons.1 hp with rfl | hp
    · cases hk
      rfl
    · obtain ⟨br, -, rfl⟩ := List.mem_map.1 hp
      cases hk
  | leaf | sequence | mapping =>
    obtain rfl := List.mem_singleton.1 hp
    cases hk

theorem pairwise_pieces (s : Statement) : s.pieces.Pairwise Piece.Apart := by
  cases s with
  | clause k b bs =>
    apply List.Pairwise.cons
    · intro q hq h _ hk
      obtain ⟨br, -, rfl⟩ := List.mem_map.1 hq
      cases hk
    · apply List.pairwise_map.2 (List.pairwise_of_forall _)
      intro br br' h hk
      cases hk
  | leaf | sequence | mapping => exact List.pairwise_singleton ..

theorem Items.pairwise_pieces (h : Items ss) : (ss.flatMap pieces).Pairwise Piece.Apart := by
  refine List.pairwise_flatMap.2 ⟨fun s _ => s.pairwise_pieces, h.distinct.imp ?_⟩
  intro s t hst p hp q hq h hph hqh
  by_contra ha
  have hs : s.sameClause t = true := by
    rw [sameClause, head?_of_mem_pieces hp hph, head?_of_mem_pieces hq hqh]
    exact decide_eq_true ⟨rfl, ha⟩
  rw [hst.1] at hs
  cases hs

theorem SimilarBranches.pieces {bs cs : List Branch} (h : SimilarBranches L bs cs) :
    List.Forall₂ (Piece.Similar L) (bs.map .branch) (cs.map .branch) := by
  induction bs generalizing cs with
  | nil =>
    cases h
    exact .nil
  | cons b bs ih =>
    cases h with
    | fail h => exact .cons .fail (ih h)
    | body hs h => exact .cons (.body hs) (ih h)

theorem Similar.pieces (h : Similar L s t) : List.Forall₂ (Piece.Similar L) s.pieces t.pieces := by
  cases h with
  | clause _ hb hbs => exact .cons (.clause hb) hbs.pieces
  | leaf h => exact .cons (.literal (.leaf h)) .nil
  | sequence h => exact .cons (.literal (.sequence h)) .nil
  | mapping h => exact .cons (.literal (.mapping h)) .nil
  | unordered hu h hp => exact .cons (.literal (.unordered hu h hp)) .nil

theorem SimilarList.pieces (h : SimilarList L ss ts) :
    List.Forall₂ (Piece.Similar L) (ss.flatMap Statement.pieces) (ts.flatMap Statement.pieces) := by
  induction ss generalizing ts with
  | nil =>
    cases h
    exact .nil
  | cons s ss ih =>
    cases h with
    | cons hs hss => exact List.rel_append hs.pieces (ih hss)

theorem Similar.parts (h : Similar L s t) : List.Forall₂ (Piece.Similar L) s.parts t.parts := by
  cases h with
  | sequence h => exact h.pieces
  | clause ht hb hbs => exact (Similar.clause ht hb hbs).pieces
  | leaf h => exact (Similar.leaf h).pieces
  | mapping h => exact (Similar.mapping h).pieces
  | unordered hu h hp => exact (Similar.unordered hu h hp).pieces

theorem WellFormed.pairwise_parts (h : s.WellFormed) : s.parts.Pairwise Piece.Apart := by
  cases s with
  | sequence ss => exact h.1.pairwise_pieces
  | leaf v => exact pairwise_pieces (.leaf v)
  | clause k b bs => exact pairwise_pieces (.clause k b bs)
  | mapping es => exact pairwise_pieces (.mapping es)

end Statement

namespace Alternation

open Statement (pieces)

variable {a b : Alternation} {ss : List Statement}

def pieces (a : Alternation) : List Piece :=
  a.statements.flatMap Statement.pieces ++ (a.clause?.toList.flatMap fun c => c.statement.pieces)

theorem pieces_of_close (h : a.close = .ok ss) : ss.flatMap Statement.pieces = a.pieces := by
  obtain ⟨ts, c?⟩ := a
  cases c? with
  | none =>
    rw [close_none_eq_ok.1 h]
    simp [pieces]
  | some c =>
    rw [(close_some_eq_ok.1 h).2]
    simp [pieces]

theorem pieces_of_literal {t : Statement} (h : a.literal t = .ok b) (ht : t.head? = none) :
    b.pieces = a.pieces ++ [.literal t] := by
  obtain ⟨ss, hc, rfl⟩ := literal_eq_ok.1 h
  rw [← pieces_of_close hc]
  simp [pieces, Statement.pieces_of_head?_eq_none ht]

theorem pieces_of_clause {h : Head} {t : Statement} (hc : a.clause h t = .ok b) :
    b.pieces = a.pieces ++ [.clause h t] := by
  obtain ⟨ss, hs, rfl⟩ := clause_eq_ok.1 hc
  rw [← pieces_of_close hs]
  simp [pieces, OpenClause.statement, Statement.pieces]

theorem pieces_of_branch {br : Branch} (h : a.branch br = .ok b) :
    b.pieces = a.pieces ++ [.branch br] := by
  obtain ⟨c, hc, rfl⟩ := branch_eq_ok.1 h
  simp [pieces, hc, OpenClause.statement, Statement.pieces]

end Alternation

namespace Statement

variable {o : Options}

def ReadAs (o : Options) (v : Value) (s : Statement) : Prop := ∃ d g g', Reads o d g v s g'

inductive EntryPiece (o : Options) : String × Value → Piece → Prop
  | clause : classify k = .ok (.clause h) → ReadAs o v s → EntryPiece o (k, v) (.clause h s)
  | fail : classify k = .ok .otherwise → isEmptyElse v → EntryPiece o (k, v) (.branch .fail)
  | body : classify k = .ok .otherwise → ReadAs o v s → EntryPiece o (k, v) (.branch (.body s))

inductive ItemPieces (o : Options) : Value → List Piece → Prop
  | fail : ItemPieces o (.string elseFail) [.branch .fail]
  | literal : isLiteralItem v → ReadAs o v s → ItemPieces o v [.literal s]
  | clauses : hasReserved es → List.Forall₂ (EntryPiece o) es ps → ItemPieces o (.mapping es) ps

theorem ReadsClauses.pieces {d : Nat} {a : Alternation} {g : Guard} {es : List (String × Value)}
    {b : Alternation} {g' : Guard} (h : ReadsClauses o d a g es b g') :
    ∃ ps, b.pieces = a.pieces ++ ps ∧ List.Forall₂ (EntryPiece o) es ps := by
  induction es generalizing a g with
  | nil =>
    cases h
    exact ⟨[], (List.append_nil _).symm, .nil⟩
  | cons e es ih =>
    cases h with
    | clause hk _ _ hs hc hi =>
      obtain ⟨ps, hb, hp⟩ := ih hi
      rw [Alternation.pieces_of_clause hc, List.append_assoc] at hb
      exact ⟨_, hb, .cons (.clause hk ⟨_, _, _, hs⟩) hp⟩
    | fail hk he hb hi =>
      obtain ⟨ps, hc, hp⟩ := ih hi
      rw [Alternation.pieces_of_branch hb, List.append_assoc] at hc
      exact ⟨_, hc, .cons (.fail hk he) hp⟩
    | body hk _ hs hb hi =>
      obtain ⟨ps, hc, hp⟩ := ih hi
      rw [Alternation.pieces_of_branch hb, List.append_assoc] at hc
      exact ⟨_, hc, .cons (.body hk ⟨_, _, _, hs⟩) hp⟩

theorem ReadsItems.pieces {d : Nat} {a : Alternation} {g : Guard} {vs : List Value}
    {b : Alternation} {g' : Guard} (h : ReadsItems o d a g vs b g') :
    ∃ pss, b.pieces = a.pieces ++ pss.flatten ∧ List.Forall₂ (ItemPieces o) vs pss := by
  induction vs generalizing a g with
  | nil =>
    cases h
    exact ⟨[], (List.append_nil _).symm, .nil⟩
  | cons v vs ih =>
    cases h with
    | fail _ hb hi =>
      obtain ⟨pss, hc, hp⟩ := ih hi
      rw [Alternation.pieces_of_branch hb, List.append_assoc, ← List.flatten_cons] at hc
      exact ⟨_, hc, .cons .fail hp⟩
    | literal hv ht hl hi =>
      obtain ⟨pss, hc, hp⟩ := ih hi
      rw [Alternation.pieces_of_literal hl (ht.literal_item hv).1, List.append_assoc,
        ← List.flatten_cons] at hc
      exact ⟨_, hc, .cons (.literal hv ⟨_, _, _, ht⟩) hp⟩
    | clauses hr hc hi =>
      obtain ⟨ps, hb, hp⟩ := hc.pieces
      obtain ⟨pss, hc, hps⟩ := ih hi
      rw [hb, List.append_assoc, ← List.flatten_cons] at hc
      exact ⟨_, hc, .cons (.clauses hr hp) hps⟩

variable {v : Value} {s : Statement}

theorem ReadAs.wellFormed (h : ReadAs o v s) : s.WellFormed := by
  obtain ⟨d, g, g', h⟩ := h
  exact h.wellFormed

theorem ReadAs.sequence_parts {vs : List Value} (h : ReadAs o (.sequence vs) s) :
    ∃ pss, s.parts = pss.flatten ∧ List.Forall₂ (ItemPieces o) vs pss := by
  obtain ⟨d, g, g', h⟩ := h
  cases h with
  | sequence _ hi hc =>
    obtain ⟨pss, hb, hp⟩ := hi.pieces
    exact ⟨pss, (Alternation.pieces_of_close hc).trans hb, hp⟩

theorem ReadAs.clauses_parts {es : List (String × Value)} (h : ReadAs o (.mapping es) s)
    (hr : hasReserved es) : List.Forall₂ (EntryPiece o) es s.parts := by
  obtain ⟨d, g, g', h⟩ := h
  cases h with
  | single _ _ hi hc =>
    obtain ⟨ps, hb, hp⟩ := hi.pieces
    have hs : s.isClause :=
      Alternation.clauses_of_close (hi.clauses Alternation.clauses_empty) hc s List.mem_cons_self
    have hps := (Alternation.pieces_of_close hc).trans hb
    rw [List.flatMap_singleton] at hps
    cases s with
    | clause h b bs =>
      change List.Forall₂ _ es (clause h b bs).pieces
      rw [hps]
      exact hp
    | leaf | sequence | mapping => cases hs
  | clauses _ _ hi hc _ =>
    obtain ⟨ps, hb, hp⟩ := hi.pieces
    rw [parts, (Alternation.pieces_of_close hc).trans hb]
    exact hp
  | literal _ hn | mapping _ hn => simp [hn] at hr

end Statement

end Recipe
