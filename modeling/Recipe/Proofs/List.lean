import Mathlib.Data.List.Forall2

namespace Recipe

variable {α β : Type} {R : α → β → Prop} {xs xs' : List α} {ys ys' : List β}

theorem exists_of_forall₂ (h : List.Forall₂ R xs ys) : ∀ x ∈ xs, ∃ y ∈ ys, R x y := by
  induction h with
  | nil => simp
  | cons hxy _ ih =>
    rw [List.forall_mem_cons]
    refine ⟨⟨_, List.mem_cons_self, hxy⟩, ?_⟩
    intro x hx
    obtain ⟨y, hy, h⟩ := ih x hx
    exact ⟨y, List.mem_cons_of_mem _ hy, h⟩

theorem forall₂_of_append (h : List.Forall₂ R (xs ++ xs') (ys ++ ys')) (hl : xs.length = ys.length) :
    List.Forall₂ R xs ys ∧ List.Forall₂ R xs' ys' := by
  induction xs generalizing ys with
  | nil =>
    obtain rfl := List.length_eq_zero_iff.1 hl.symm
    exact ⟨.nil, h⟩
  | cons x xs ih =>
    cases ys with
    | nil => cases hl
    | cons y ys =>
      cases h with
      | cons hxy h =>
        obtain ⟨h, h'⟩ := ih h (Nat.succ.inj hl)
        exact ⟨.cons hxy h, h'⟩

theorem pairwise_of_forall₂ {P : α → α → Prop} {Q : β → β → Prop} (h : List.Forall₂ R xs ys)
    (hp : ys.Pairwise Q) (hpq : ∀ x x' y y', R x y → R x' y' → Q y y' → P x x') : xs.Pairwise P := by
  induction h with
  | nil => exact .nil
  | cons hxy h ih =>
    rw [List.pairwise_cons] at hp
    refine .cons ?_ (ih hp.2)
    intro x' hx'
    obtain ⟨y', hy', hxy'⟩ := exists_of_forall₂ h x' hx'
    exact hpq _ _ _ _ hxy hxy' (hp.1 y' hy')

theorem eq_of_map_eq {f : α → β} {xs ys : List α} (hf : ∀ x ∈ xs, ∀ y ∈ ys, f x = f y → x = y)
    (h : xs.map f = ys.map f) : xs = ys := by
  induction xs generalizing ys with
  | nil => exact (List.map_eq_nil_iff.1 h.symm).symm
  | cons x xs ih =>
    cases ys with
    | nil => cases h
    | cons y ys =>
      rw [List.map_cons, List.map_cons, List.cons.injEq] at h
      rw [hf x List.mem_cons_self y List.mem_cons_self h.1, ih _ h.2]
      intro x' hx' y' hy'
      exact hf x' (List.mem_cons_of_mem x hx') y' (List.mem_cons_of_mem y hy')

end Recipe
