import Recipe.Proofs.Value.Similar

/-! Two runs side by side. Where both succeed their results are related, and where one fails the other
does too, as far as a leniency asks for it. -/

namespace Recipe

/-- What two runs may differ in: the errors they stop at, whether one of them may go on where the other
stops at an error that `try` lets pass, and whether mappings with clauses inside may list their entries
in another order. `try` may be used where it tells the errors apart. -/
structure Leniency where
  errors : GrammarError → GrammarError → Prop
  fatal : Prop
  unordered : Prop
  tries : Prop
  of_similar : ∀ e e', e.Similar e' → errors e e'
  of_unordered : unordered → ∀ e e', errors e e'
  of_tries : tries → ∀ e e', errors e e' → e.isMismatch = e'.isMismatch ∨ fatal

namespace Leniency

def strict : Leniency where
  errors := GrammarError.Similar
  fatal := False
  unordered := False
  tries := True
  of_similar := fun _ _ => id
  of_unordered := False.elim
  of_tries := fun _ _ _ h => .inl (GrammarError.Similar.isMismatch_eq h)

def tryless : Leniency where
  errors := fun _ _ => True
  fatal := False
  unordered := True
  tries := False
  of_similar := fun _ _ _ => trivial
  of_unordered := fun _ _ _ => trivial
  of_tries := False.elim

def lenient : Leniency where
  errors := fun _ _ => True
  fatal := True
  unordered := True
  tries := True
  of_similar := fun _ _ _ => trivial
  of_unordered := fun _ _ _ => trivial
  of_tries := fun _ _ _ _ => .inr trivial

end Leniency

/-- The outcomes of two runs. With `fatal` a run that stops where `try` does not recover need not have a
counterpart. -/
inductive Outcome {α β : Type} (errors : GrammarError → GrammarError → Prop) (fatal : Prop)
    (A : α → β → Prop) : Except GrammarError α → Except GrammarError β → Prop
  | ok : A a b → Outcome errors fatal A (.ok a) (.ok b)
  | error : errors e e' → Outcome errors fatal A (.error e) (.error e')
  | left : fatal → e.isMismatch = false → Outcome errors fatal A (.error e) r
  | right : fatal → e.isMismatch = false → Outcome errors fatal A r (.error e)

namespace Outcome

variable {α α' β β' : Type} {errors : GrammarError → GrammarError → Prop} {fatal : Prop}
  {A : α → α' → Prop} {B : β → β' → Prop} {r : Except GrammarError α} {r' : Except GrammarError α'}

theorem bind {k : α → Except GrammarError β} {k' : α' → Except GrammarError β'}
    (h : Outcome errors fatal A r r') (hk : ∀ a a', A a a' → Outcome errors fatal B (k a) (k' a')) :
    Outcome errors fatal B (r >>= k) (r' >>= k') := by
  cases h with
  | ok ha => exact hk _ _ ha
  | error he => exact .error he
  | left hf he => exact .left hf he
  | right hf he => exact .right hf he

theorem map {f : α → β} {f' : α' → β'} (h : Outcome errors fatal A r r')
    (hab : ∀ a a', A a a' → B (f a) (f' a')) : Outcome errors fatal B (r.map f) (r'.map f') := by
  cases h with
  | ok ha => exact .ok (hab _ _ ha)
  | error he => exact .error he
  | left hf he => exact .left hf he
  | right hf he => exact .right hf he

theorem imp {A B : α → α' → Prop} (h : Outcome errors fatal A r r') (hab : ∀ a a', A a a' → B a a') :
    Outcome errors fatal B r r' := by
  cases h with
  | ok ha => exact .ok (hab _ _ ha)
  | error he => exact .error he
  | left hf he => exact .left hf he
  | right hf he => exact .right hf he

theorem mono (h : Outcome errors False A r r') : Outcome errors fatal A r r' := by
  cases h with
  | ok ha => exact .ok ha
  | error he => exact .error he
  | left hf | right hf => exact hf.elim

theorem trans {γ : Type} {C : α' → γ → Prop} {D : α → γ → Prop}
    {errors' : GrammarError → GrammarError → Prop} {r'' : Except GrammarError γ}
    (h : Outcome errors False A r r') (h' : Outcome errors' False C r' r'')
    (he : ∀ e e', errors e e') (hd : ∀ a b c, A a b → C b c → D a c) :
    Outcome errors False D r r'' := by
  cases h with
  | ok ha =>
    cases h' with
    | ok hc => exact .ok (hd _ _ _ ha hc)
    | right hf => exact hf.elim
  | error _ =>
    cases h' with
    | error _ => exact .error (he _ _)
    | left hf | right hf => exact hf.elim
  | left hf | right hf => exact hf.elim

theorem isOk_iff (h : Outcome errors False A r r') : r.isOk = r'.isOk := by
  cases h with
  | ok _ | error _ => rfl
  | left hf | right hf => exact hf.elim

theorem exists_ok {a : α} (h : Outcome errors False A (.ok a) r') : ∃ a', r' = .ok a' ∧ A a a' := by
  cases h with
  | ok ha => exact ⟨_, rfl, ha⟩
  | right hf => exact hf.elim

theorem exists_ok_left {a' : α'} (h : Outcome errors False A r (.ok a')) : ∃ a, r = .ok a ∧ A a a' := by
  cases h with
  | ok ha => exact ⟨_, rfl, ha⟩
  | left hf => exact hf.elim

theorem of_ok {a : α} {a' : α'} (h : Outcome errors fatal A (.ok a) (.ok a')) : A a a' := by
  cases h with
  | ok ha => exact ha

end Outcome

end Recipe
