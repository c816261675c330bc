import Mathlib
import Recipe.Proofs.Clause.Text
import Recipe.Proofs.Evaluation.Causes
import Recipe.Proofs.Evaluation.Default
import Recipe.Proofs.Statement.Refusal

namespace Recipe

open Clause (Head classify headsOf isReserved)

theorem Clause.parsed_of_mem_headsOf {keys : List String} {h : Head} (hm : h ∈ headsOf keys) : h.Parsed := by
  obtain ⟨_, -, hk⟩ := exists_of_mem_headsOf hm
  exact parsed_of_classify hk

theorem Value.parsed_of_mem_heads {v : Value} {h : Head} (hm : h ∈ v.heads) : h.Parsed := by
  cases v with
  | mapping es => exact Clause.parsed_of_mem_headsOf hm
  | sequence vs =>
    obtain ⟨w, -, hm⟩ := List.mem_flatMap.1 hm
    cases w with
    | mapping es => exact Clause.parsed_of_mem_headsOf hm
    | unset | scalar | sequence => cases hm
  | unset | scalar => cases hm

namespace Statement

variable {s t : Statement} {ss : List Statement} {h g : Head} {o : Options} {raw : Value} {i j : Nat}

theorem WellFormed.parsed (hs : s.WellFormed) (hh : s.head? = some h) : h.Parsed := by
  cases s with
  | clause k b bs =>
    cases hh
    exact hs.1.parsed
  | leaf | sequence | mapping => cases hh

theorem sameClause_iff (hs : s.head? = some h) (ht : t.head? = some g) :
    s.sameClause t ↔ h = g ∧ h ≠ .attempt := by
  rw [sameClause, hs, ht]
  exact decide_eq_true_iff

theorem Items.eq_of_head? (hi : Items ss) (ht : h ≠ .attempt) (hs : ss[i]?.bind head? = some h)
    (hs' : ss[j]?.bind head? = some h) : i = j := by
  by_contra hij
  obtain ⟨s, hgs, hs⟩ := Option.bind_eq_some_iff.1 hs
  obtain ⟨t, hgt, ht'⟩ := Option.bind_eq_some_iff.1 hs'
  have hst : s.sameClause t = false := by
    obtain ⟨hil, rfl⟩ := List.getElem?_eq_some_iff.1 hgs
    obtain ⟨hjl, rfl⟩ := List.getElem?_eq_some_iff.1 hgt
    rcases Nat.lt_or_gt_of_ne hij with hlt | hlt
    · exact (List.pairwise_iff_getElem.1 hi.distinct i j hil hjl hlt).1
    · exact (List.pairwise_iff_getElem.1 hi.distinct j i hjl hil hlt).2
  rw [(sameClause_iff hs ht').2 ⟨rfl, ht⟩] at hst
  cases hst

theorem WellFormed.text_iff (hw : WellFormed (.sequence ss)) (ht : h ≠ .attempt)
    (hs : ss[i]?.bind head? = some h) (n : Nat) :
    (ss[n]?.bind head?).map Head.text = some h.text ↔ n = i := by
  have parsed {m : Nat} {k : Head} (hm : ss[m]?.bind head? = some k) : k.Parsed := by
    obtain ⟨s, hs, hk⟩ := Option.bind_eq_some_iff.1 hm
    exact (wellFormedList_iff.1 hw.2 s (List.mem_of_getElem? hs)).parsed hk
  constructor
  · intro hn
    obtain ⟨k, hk, he⟩ := Option.map_eq_some_iff.1 hn
    obtain rfl := (Clause.text_inj (parsed hk) (parsed hs)).1 he
    exact hw.1.eq_of_head? ht hk hs
  · rintro rfl
    rw [hs]
    rfl

theorem text_of_duplicate (h' : parse o raw = .error (.malformed (.duplicate h))) :
    h ≠ .attempt ∧ classify h.text = .ok (.clause h) ∧
      ∃ v : Value, v.ReadIn raw ∧ ∃ passed rest, v.heads = passed ++ h :: rest ∧
        (passed.map Head.text).count h.text = 1 := by
  obtain ⟨hn, v, hv, passed, rest, he, hc⟩ := refusal_of_parse h'
  have hp : ∀ g ∈ v.heads, g.Parsed := fun _ => Value.parsed_of_mem_heads
  rw [he] at hp
  have hh : h.Parsed := hp h (by simp)
  refine ⟨hn, Clause.classify_text hh, v, hv, passed, rest, he, ?_⟩
  rw [Clause.count_text (fun g hg => hp g (by simp [hg])) hh, hc]

theorem text_of_ambiguous {σ : Settings} {subject : String} (ht : parse o raw = .ok t)
    (he : evaluate σ t = .error (.ambiguous h g subject)) :
    ∃ ss, PartOf (.sequence ss) t ∧ ∃ i j : Nat, i ≠ j ∧
      (∀ n : Nat, (ss[n]?.bind head?).map Head.text = some h.text ↔ n = i) ∧
      (∀ n : Nat, (ss[n]?.bind head?).map Head.text = some g.text ↔ n = j) := by
  obtain ⟨ss, hs, i, j, hij, hi, hj, -, -, hh, hg⟩ := (causes_of_evaluate he).rivals_of_ambiguous
  have hw := hs.wellFormed ht
  -- a `try` names nothing
  have named {k : Head} (hk : k.selectedByName σ.env) : k ≠ .attempt := by
    rintro rfl
    cases hk
  exact ⟨ss, hs, i, j, hij, hw.text_iff (named hh) hi, hw.text_iff (named hg) hj⟩

/-- Clauses and keys agree. A key is reserved unless it is read as a plain one. The text of a clause of a
recipe is read as that clause again, so that clauses with one text are the same clause, or both a `try`.
A repetition and an ambiguous selection are told by such texts, each of which stands for one clause of the
sequence. -/
theorem texts_tell_clauses :
    (∀ key, isReserved key ↔ classify key ≠ .ok .plain) ∧
    (∀ o raw (t s : Statement) (h : Head), parse o raw = .ok t → s.PartOf t → s.head? = some h →
      classify h.text = .ok (.clause h)) ∧
    (∀ o raw (t s : Statement) (h : Head) o' raw' (t' s' : Statement) (h' : Head),
      parse o raw = .ok t → s.PartOf t → s.head? = some h →
      parse o' raw' = .ok t' → s'.PartOf t' → s'.head? = some h' →
        (h.text = h'.text ↔ s.sameClause s' ∨ h = .attempt ∧ h' = .attempt)) ∧
    (∀ o raw h, parse o raw = .error (.malformed (.duplicate h)) →
      h ≠ .attempt ∧ classify h.text = .ok (.clause h) ∧
        ∃ v : Value, v.ReadIn raw ∧ ∃ passed rest, v.heads = passed ++ h :: rest ∧
          (passed.map Head.text).count h.text = 1) ∧
    (∀ o raw t σ h g subject, parse o raw = .ok t →
      evaluate σ t = .error (.ambiguous h g subject) →
        ∃ ss, PartOf (.sequence ss) t ∧ ∃ i j : Nat, i ≠ j ∧
          (∀ n : Nat, (ss[n]?.bind head?).map Head.text = some h.text ↔ n = i) ∧
          (∀ n : Nat, (ss[n]?.bind head?).map Head.text = some g.text ↔ n = j)) := by
  refine ⟨Clause.isReserved_iff, ?_, ?_, fun _ _ _ => text_of_duplicate, fun _ _ _ _ _ _ _ => text_of_ambiguous⟩
  · intro o raw t s h ht hs hh
    exact Clause.classify_text ((hs.wellFormed ht).parsed hh)
  · intro o raw t s h o' raw' t' s' h' ht hs hh ht' hs' hh'
    rw [Clause.text_inj ((hs.wellFormed ht).parsed hh) ((hs'.wellFormed ht').parsed hh'), sameClause_iff hh hh']
    constructor
    · rintro rfl
      by_cases ha : h = .attempt
      · exact .inr ⟨ha, ha⟩
      · exact .inl ⟨rfl, ha⟩
    · rintro (⟨rfl, -⟩ | ⟨rfl, rfl⟩) <;> rfl

def x86Head : Head := .target (.ofList ["i386", "amd64"])

def overlapRecipe : Value :=
  .sequence [.mapping [("to i386,amd64", .string "lld")], .mapping [("to amd64", .string "mold")]]

def overlapTree : Statement :=
  .sequence [.clause x86Head (.leaf (.string "lld")) [],
    .clause (.target (.ofList ["amd64"])) (.leaf (.string "mold")) []]

def repeatingRecipe : Value :=
  .sequence [.mapping [("to i386,amd64", .string "lld")], .mapping [("to amd64,i386", .string "mold")]]

theorem texts_tell_clauses_x86 :
    (isReserved "on to to to" ↔ classify "on to to to" ≠ .ok .plain) ∧
    parse {} overlapRecipe = .ok overlapTree ∧ x86Head.text = "to amd64,i386" ∧
    classify "to amd64,i386" = .ok (.clause x86Head) ∧
    evaluate { env := .native "amd64" } overlapTree =
      .error (.ambiguous x86Head (.target (.ofList ["amd64"])) "amd64") ∧
    (∃ ss, PartOf (.sequence ss) overlapTree ∧ ∃ i j : Nat, i ≠ j ∧
      (∀ n : Nat, (ss[n]?.bind head?).map Head.text = some x86Head.text ↔ n = i) ∧
      (∀ n : Nat, (ss[n]?.bind head?).map Head.text = some "to amd64" ↔ n = j)) ∧
    parse {} repeatingRecipe = .error (.malformed (.duplicate x86Head)) ∧
    (∃ v : Value, v.ReadIn repeatingRecipe ∧ ∃ passed rest, v.heads = passed ++ x86Head :: rest ∧
      (passed.map Head.text).count x86Head.text = 1) := by
  obtain ⟨hreserved, hread, -, hduplicate, hambiguous⟩ := texts_tell_clauses
  have hp : parse {} overlapRecipe = .ok overlapTree := by cbv
  have ht : x86Head.text = "to amd64,i386" := by cbv
  have he : evaluate { env := .native "amd64" } overlapTree =
      .error (.ambiguous x86Head (.target (.ofList ["amd64"])) "amd64") := by cbv
  have hd : parse {} repeatingRecipe = .error (.malformed (.duplicate x86Head)) := by cbv
  have hs : (Statement.clause x86Head (.leaf (.string "lld")) []).PartOf overlapTree :=
    (PartOf.refl _).item List.mem_cons_self
  refine ⟨hreserved _, hp, ht, ?_, he, hambiguous _ _ _ _ _ _ _ hp he, hd, (hduplicate _ _ _ hd).2.2⟩
  rw [← ht]
  exact hread _ _ _ _ _ hp hs rfl

end Statement

end Recipe
