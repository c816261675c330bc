import Recipe.Statement.Alternation
import Recipe.Proofs.Except

namespace Recipe

open Clause (Head)

def OpenClause.statement (c : OpenClause) : Statement := .clause c.head c.body c.branches

def OpenClause.Closable (c : OpenClause) (ss : List Statement) : Prop :=
  (c.head = .attempt → c.branches ≠ []) ∧ ∀ s ∈ ss, s.sameClause c.statement = false

namespace Alternation

variable {a b : Alternation} {ss rs : List Statement} {c : OpenClause} {t : Statement} {h : Head}
  {br : Branch}

theorem close_none_eq_ok : close ⟨ss, none⟩ = .ok rs ↔ rs = ss := by
  rw [close, Except.ok.injEq]
  exact eq_comm

theorem close_some_eq_ok : close ⟨ss, some c⟩ = .ok rs ↔ c.Closable ss ∧ rs = ss ++ [c.statement] := by
  obtain ⟨h, b, bs⟩ := c
  simp only [close, OpenClause.Closable, OpenClause.statement]
  split
  · rename_i ht
    simp [ht.1, List.isEmpty_iff.1 ht.2]
  · rename_i ht
    have hb : h = .attempt → bs ≠ [] := fun hh hb => ht ⟨hh, by simp [hb]⟩
    split
    · rename_i hd
      obtain ⟨s, hs, hd⟩ := List.any_eq_true.1 hd
      constructor
      · intro he
        cases he
      · rintro ⟨⟨-, hn⟩, -⟩
        rw [hn s hs] at hd
        cases hd
    · rename_i hd
      have hn : ∀ s ∈ ss, s.sameClause (.clause h b bs) = false := by simpa using hd
      rw [Except.ok.injEq]
      constructor
      · rintro rfl
        exact ⟨⟨hb, hn⟩, rfl⟩
      · rintro ⟨-, rfl⟩
        rfl

theorem literal_eq_ok : a.literal t = .ok b ↔ ∃ ss, a.close = .ok ss ∧ ⟨ss ++ [t], none⟩ = b := by
  rw [literal, Except.bind_eq_ok]
  simp only [pure, Except.pure, Except.ok.injEq]

theorem clause_eq_ok : a.clause h t = .ok b ↔ ∃ ss, a.close = .ok ss ∧ ⟨ss, some ⟨h, t, []⟩⟩ = b := by
  rw [clause, Except.bind_eq_ok]
  simp only [pure, Except.pure, Except.ok.injEq]

theorem branch_eq_ok : a.branch br = .ok b ↔
    ∃ c, a.clause? = some c ∧ ⟨a.statements, some ⟨c.head, c.body, c.branches ++ [br]⟩⟩ = b := by
  cases hc : a.clause? with
  | none => simp [branch, hc]
  | some c => simp [branch, hc]

end Alternation

end Recipe
