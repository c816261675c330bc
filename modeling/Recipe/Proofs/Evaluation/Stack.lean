import Recipe.Proofs.Evaluation.Leaves

/-! Evaluation with one stack for the whole tree. A clause puts itself on the stack while its body is
evaluated, and takes itself off whether the body has a value or fails. -/

namespace Recipe

open Clause (Head)

/-- A computation with the stack of the clauses whose bodies are evaluated, outermost first. When it fails
the stack stays as it was then. -/
abbrev Stacked := ExceptT GrammarError (StateM (List Statement))

namespace Stacked

variable {α β : Type}

def ofExcept (r : Except GrammarError α) : Stacked α := ExceptT.mk (pure r)

def outcome (x : Stacked α) : Stacked (Except GrammarError α) := ExceptT.mk (Except.ok <$> x.run)

def onStack (c : Statement) (x : Stacked α) : Stacked α := ExceptT.mk do
  modify fun stack => stack ++ [c]
  let r ← x.run
  modify List.dropLast
  return r

def recover (x : Stacked Value) (k : Value → Stacked Value) (l : GrammarError → Stacked Value) :
    Stacked Value := do
  match ← x.outcome with
  | .ok v => k v
  | .error e => if e.isMismatch then l e else throw e

def runFrom (x : Stacked α) (stack : List Statement) : Except GrammarError α × List Statement :=
  (x.run.run stack).run

def Restores (x : Stacked α) (r : List Statement → Except GrammarError α) : Prop :=
  ∀ stack, x.runFrom stack = (r stack, stack)

namespace Restores

variable {x : Stacked α} {r : List Statement → Except GrammarError α}

theorem ofExcept (r : Except GrammarError α) : Restores (ofExcept r) fun _ => r := fun _ => rfl

theorem pure (a : α) : Restores (pure a) fun _ => .ok a := fun _ => rfl

theorem throw (e : GrammarError) : Restores (throw e : Stacked α) fun _ => .error e := fun _ => rfl

theorem get : Restores (get : Stacked (List Statement)) fun stack => .ok stack := fun _ => rfl

theorem bind (hx : x.Restores r) {k : α → Stacked β} {k' : α → List Statement → Except GrammarError β}
    (hk : ∀ a, (k a).Restores (k' a)) :
    (x >>= k).Restores fun stack => r stack >>= fun a => k' a stack := by
  intro stack
  change (match x.runFrom stack with | (o, stack) => (ExceptT.bindCont k o).run stack) =
    (r stack >>= fun a => k' a stack, stack)
  rw [hx stack]
  cases r stack with
  | ok a => exact hk a stack
  | error e => rfl

theorem outcome (hx : x.Restores r) : x.outcome.Restores fun stack => .ok (r stack) := by
  intro stack
  change (Except.ok (x.runFrom stack).1, (x.runFrom stack).2) = _
  rw [hx stack]

theorem onStack (hx : x.Restores r) (c : Statement) :
    (x.onStack c).Restores fun stack => r (stack ++ [c]) := by
  intro stack
  change ((x.runFrom (stack ++ [c])).1, (x.runFrom (stack ++ [c])).2.dropLast) = _
  rw [hx, List.dropLast_concat]

theorem recover {x : Stacked Value} {r : List Statement → Except GrammarError Value} (hx : x.Restores r)
    {k : Value → Stacked Value} {k' : Value → List Statement → Except GrammarError Value}
    {l : GrammarError → Stacked Value} {l' : GrammarError → List Statement → Except GrammarError Value}
    (hk : ∀ v, (k v).Restores (k' v)) (hl : ∀ e, (l e).Restores (l' e)) :
    (x.recover k l).Restores fun stack =>
      Statement.recover (r stack) (fun v => k' v stack) fun e => l' e stack := by
  change (x.outcome >>= _).Restores fun stack =>
    Except.ok (r stack) >>= fun o => Statement.recover o (fun v => k' v stack) fun e => l' e stack
  apply hx.outcome.bind
  intro o
  cases o with
  | ok v => exact hk v
  | error e =>
    simp only [Statement.recover]
    split
    · exact hl e
    · exact .throw e

end Restores

end Stacked

namespace Statement

open Stacked (onStack)

mutual

def evalOn (σ : Settings) (siblings : List Head) : Statement → Stacked Value
  | .leaf .unset => return .unset
  | .leaf v => do .ofExcept (σ.leaf (← get) v)
  | .sequence ss => evalItemsOn σ (heads ss) [] (start ss) ss
  | .mapping es => do .ofExcept (σ.validate (.mapping (← evalEntriesOn σ.inside es)))
  | .clause .attempt b bs =>
    (onStack (.clause .attempt b bs) (evalOn σ [] b)).recover pure fun e =>
      evalFallbackOn σ (some e) bs
  | .clause h b bs =>
    if h.selected siblings σ.env then onStack (.clause h b bs) (evalOn σ [] b)
    else evalBranchesOn σ h bs
termination_by structural s => s

def evalBranchesOn (σ : Settings) (h : Head) : List Branch → Stacked Value
  | [] => return .unset
  | .fail :: _ => throw (.unsatisfied h)
  | .body s :: bs => do
    let v ← evalOn σ [] s
    if v.isUnset then evalBranchesOn σ h bs else return v
termination_by structural bs => bs

def evalFallbackOn (σ : Settings) (last : Option GrammarError) : List Branch → Stacked Value
  | [] =>
    match last with
    | none => return .unset
    | some e => throw e
  | .fail :: _ => throw (.unsatisfied .attempt)
  | .body s :: bs =>
    (evalOn σ [] s).recover (fun v => if v.isUnset then evalFallbackOn σ none bs else pure v) fun e =>
      evalFallbackOn σ (some e) bs
termination_by structural bs => bs

def evalItemsOn (σ : Settings) (siblings before : List Head) (g : Gathered) :
    List Statement → Stacked Value
  | [] => return g.value
  | s :: ss => do
    let v ← evalOn σ siblings s
    let passed := before ++ s.head?.toList
    if v.isUnset then evalItemsOn σ siblings passed g ss
    else if g.settles σ.asList v then .ofExcept (settle σ.env s (before ++ heads ss) v)
    else evalItemsOn σ siblings passed (← .ofExcept (g.add σ.asList s.isClause v)) ss
termination_by structural ss => ss

def evalEntriesOn (σ : Settings) : List (String × Statement) → Stacked (Entries Value)
  | [] => return []
  | (k, s) :: es => do
    let v ← evalOn σ [] s
    let rest ← evalEntriesOn σ es
    return if v.isUnset then rest else (k, v) :: rest
termination_by structural es => es

end

mutual

theorem evalOn_restores (σ : Settings) (siblings : List Head) :
    ∀ s : Statement, (evalOn σ siblings s).Restores fun stack => eval σ stack siblings s
  | .leaf v => by
    by_cases hv : v = .unset
    · subst hv
      exact .pure Value.unset
    · simp only [eval_leaf hv]
      rw [evalOn]
      · exact .bind .get fun stack => .ofExcept (σ.leaf stack v)
      · exact hv
  | .sequence ss => by
    rw [evalOn]
    exact evalItemsOn_restores σ (heads ss) [] (start ss) ss
  | .mapping es => by
    rw [evalOn]
    exact (evalEntriesOn_restores σ.inside es).bind fun _ => .ofExcept _
  | .clause h b bs => by
    have hb := (evalOn_restores σ [] b).onStack (.clause h b bs)
    by_cases hk : h = .attempt
    · subst hk
      simp only [eval_attempt]
      rw [evalOn]
      exact hb.recover .pure fun e => evalFallbackOn_restores σ (some e) bs
    · simp only [eval_clause hk]
      rw [evalOn]
      · split
        · exact hb
        · exact evalBranchesOn_restores σ h bs
      · exact hk
termination_by structural s => s

theorem evalBranchesOn_restores (σ : Settings) (h : Head) :
    ∀ bs : List Branch, (evalBranchesOn σ h bs).Restores fun stack => evalBranches σ stack h bs
  | [] => .pure Value.unset
  | .fail :: _ => .throw (.unsatisfied h)
  | .body s :: bs => by
    simp only [evalBranches_body]
    apply (evalOn_restores σ [] s).bind
    intro v
    split
    · exact evalBranchesOn_restores σ h bs
    · exact .pure _
termination_by structural bs => bs

theorem evalFallbackOn_restores (σ : Settings) (last : Option GrammarError) :
    ∀ bs : List Branch,
      (evalFallbackOn σ last bs).Restores fun stack => evalFallback σ stack last bs
  | [] => by
    cases last with
    | none => exact .pure Value.unset
    | some e => exact .throw e
  | .fail :: _ => .throw (.unsatisfied .attempt)
  | .body s :: bs => by
    simp only [evalFallback_body]
    apply (evalOn_restores σ [] s).recover
    · intro v
      split
      · exact evalFallbackOn_restores σ none bs
      · exact .pure v
    · exact fun e => evalFallbackOn_restores σ (some e) bs
termination_by structural bs => bs

theorem evalItemsOn_restores (σ : Settings) (siblings before : List Head) (g : Gathered) :
    ∀ ss : List Statement, (evalItemsOn σ siblings before g ss).Restores fun stack =>
      evalItems σ stack siblings before g ss
  | [] => .pure g.value
  | s :: ss => by
    simp only [evalItems]
    apply (evalOn_restores σ siblings s).bind
    intro v
    dsimp only
    split
    · exact evalItemsOn_restores σ siblings _ g ss
    · split
      · exact .ofExcept _
      · exact (Stacked.Restores.ofExcept _).bind fun g => evalItemsOn_restores σ siblings _ g ss
termination_by structural ss => ss

theorem evalEntriesOn_restores (σ : Settings) :
    ∀ es : List (String × Statement),
      (evalEntriesOn σ es).Restores fun stack => evalEntries σ stack es
  | [] => .pure []
  | (k, s) :: es => by
    simp only [evalEntries]
    exact (evalOn_restores σ [] s).bind fun v => (evalEntriesOn_restores σ es).bind fun rest => .pure _
termination_by structural es => es

end

/-- Evaluation with a transformer is evaluation without one of the tree whose leaves have been transformed,
each with the clauses of its own tree that it stands in the bodies of. The stack that those clauses are
read off is the same after every statement as before it, also where the body of a `try` has failed. -/
theorem evaluate_transformed (env : Environment) (check : Option Validator) (transform : Transformer)
    (shape : Option Shape) (t : Statement)
    (ht : check = none ∨ ∀ path v, v ≠ .unset → transform path v env ≠ .unset) :
    evaluate ⟨env, check, some transform, shape⟩ t =
      evaluate ⟨env, check, none, shape⟩ (t.mapLeaves (fun path v => transform path v env) []) ∧
    ∀ siblings stack, (evalOn ⟨env, check, some transform, shape⟩ siblings t).runFrom stack =
      (eval ⟨env, check, some transform, shape⟩ stack siblings t, stack) := by
  constructor
  · have hσ : Settings.KeepsLeaves ⟨env, check, some transform, shape⟩ := ht
    exact (evaluatesAs_mapLeaves hσ [] t).eval_eq [] []
  · exact fun siblings => evalOn_restores _ siblings t

def suffixed : Transformer := fun path v env =>
  match path.getLast?.bind kind?, v with
  | some .target, .scalar (.string s) => .string s!"{s}:{env.targetArch}"
  | _, v => v

def crossTree : Statement :=
  .sequence [.leaf (.string "pkg-config"),
    .clause (.target (.ofList ["arm64"]))
      (.clause .attempt
        (.sequence [.leaf (.string "libssl"), .clause (.host (.ofList ["amd64"])) (.leaf (.bool true)) []])
        [.body (.leaf (.string "openssl"))]) []]

theorem evaluate_transformed_cross :
    (∀ path v, v ≠ .unset → suffixed path v ⟨"amd64", "arm64", "p"⟩ ≠ .unset) ∧
    evaluate ⟨⟨"amd64", "arm64", "p"⟩, some LeafType.string.check, some suffixed, none⟩ crossTree =
      .ok (.sequence [.string "pkg-config", .string "openssl:arm64"]) ∧
    evaluate ⟨⟨"amd64", "arm64", "p"⟩, some LeafType.string.check, none, none⟩
        (crossTree.mapLeaves (fun path v => suffixed path v ⟨"amd64", "arm64", "p"⟩) []) =
      .ok (.sequence [.string "pkg-config", .string "openssl:arm64"]) ∧
    (evalOn ⟨⟨"amd64", "arm64", "p"⟩, some LeafType.string.check, some suffixed, none⟩ []
        crossTree).runFrom [] =
      (.ok (.sequence [.string "pkg-config", .string "openssl:arm64"]), []) := by
  have hs : ∀ path v, v ≠ .unset → suffixed path v ⟨"amd64", "arm64", "p"⟩ ≠ .unset := by
    intro path v hv
    unfold suffixed
    split
    · simp
    · exact hv
  have he : evaluate ⟨⟨"amd64", "arm64", "p"⟩, some LeafType.string.check, some suffixed, none⟩ crossTree =
      .ok (.sequence [.string "pkg-config", .string "openssl:arm64"]) := by cbv
  obtain ⟨hm, hr⟩ := evaluate_transformed _ (some LeafType.string.check) suffixed none crossTree (.inr hs)
  exact ⟨hs, he, hm ▸ he, (hr [] []).trans (congrArg (·, []) he)⟩

end Statement

end Recipe
