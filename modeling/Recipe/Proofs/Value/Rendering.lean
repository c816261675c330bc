import Mathlib
import Recipe.Error
import Recipe.Proofs.Value.Similar

/-! A value is known by its rendering, also where a message quotes it. -/

namespace Recipe

open Json (Token)

theorem Json.Token.ofScalar_inj {s t : Scalar} : Token.ofScalar s = .ofScalar t ↔ s = t := by
  constructor
  · intro h
    cases s <;> cases t <;> cases h <;> rfl
  · rintro rfl
    rfl

namespace Value

def laterItemTokens : List Value → List Token
  | [] => []
  | v :: vs => .comma :: itemTokens (v :: vs)

def laterEntryTokens : List (String × Value) → List Token
  | [] => []
  | e :: es => .comma :: entryTokens (e :: es)

theorem itemTokens_cons (v : Value) (vs : List Value) :
    itemTokens (v :: vs) = v.tokens ++ laterItemTokens vs := by
  cases vs with
  | nil => exact (List.append_nil _).symm
  | cons w vs => rfl

theorem entryTokens_cons (k : String) (v : Value) (es : List (String × Value)) :
    entryTokens ((k, v) :: es) = .string k :: .colon :: v.tokens ++ laterEntryTokens es := by
  cases es with
  | nil => simp [entryTokens, laterEntryTokens]
  | cons e es => rfl

theorem tokens_ne_closeArray {v : Value} {ts us : List Token} : v.tokens ++ ts ≠ .closeArray :: us := by
  intro h
  cases v with
  | scalar s => cases s <;> cases h
  | unset | sequence | mapping => cases h

-- by comparing tokens, as a reader goes only so deep
mutual

theorem tokens_inj : ∀ {v w : Value} {ts us : List Token}, v.tokens ++ ts = w.tokens ++ us → v = w ∧ ts = us
  | .unset, w, ts, us, h => by
    cases w with
    | unset =>
      cases h
      exact ⟨rfl, rfl⟩
    | scalar t => cases t <;> cases h
    | sequence | mapping => cases h
  | .scalar s, w, ts, us, h => by
    cases w with
    | scalar t =>
      obtain ⟨hs, rfl⟩ := List.cons.inj h
      rw [Token.ofScalar_inj.1 hs]
      exact ⟨rfl, rfl⟩
    | unset | sequence | mapping => cases s <;> cases h
  | .sequence vs, w, ts, us, h => by
    cases w with
    | sequence ws =>
      simp only [tokens, List.cons_append, List.append_assoc, List.cons.injEq, true_and, List.nil_append] at h
      obtain ⟨rfl, rfl⟩ := itemTokens_inj h
      exact ⟨rfl, rfl⟩
    | scalar t => cases t <;> cases h
    | unset | mapping => cases h
  | .mapping es, w, ts, us, h => by
    cases w with
    | mapping fs =>
      simp only [tokens, List.cons_append, List.append_assoc, List.cons.injEq, true_and, List.nil_append] at h
      obtain ⟨rfl, rfl⟩ := entryTokens_inj h
      exact ⟨rfl, rfl⟩
    | scalar t => cases t <;> cases h
    | unset | sequence => cases h

theorem itemTokens_inj : ∀ {vs ws : List Value} {ts us : List Token},
    itemTokens vs ++ .closeArray :: ts = itemTokens ws ++ .closeArray :: us → vs = ws ∧ ts = us
  | [], [], ts, us, h => ⟨rfl, (List.cons.inj h).2⟩
  | [], w :: ws, ts, us, h => by
    rw [itemTokens_cons, List.append_assoc] at h
    exact absurd h.symm tokens_ne_closeArray
  | v :: vs, [], ts, us, h => by
    rw [itemTokens_cons, List.append_assoc] at h
    exact absurd h tokens_ne_closeArray
  | v :: vs, w :: ws, ts, us, h => by
    rw [itemTokens_cons, itemTokens_cons, List.append_assoc, List.append_assoc] at h
    obtain ⟨rfl, hl⟩ := tokens_inj h
    match vs, ws, hl with
    | [], [], hl => exact ⟨rfl, (List.cons.inj hl).2⟩
    | _ :: _, _ :: _, hl =>
      obtain ⟨hvs, rfl⟩ := itemTokens_inj (List.cons.inj hl).2
      rw [hvs]
      exact ⟨rfl, rfl⟩

theorem entryTokens_inj : ∀ {es fs : List (String × Value)} {ts us : List Token},
    entryTokens es ++ .closeObject :: ts = entryTokens fs ++ .closeObject :: us → es = fs ∧ ts = us
  | [], [], ts, us, h => ⟨rfl, (List.cons.inj h).2⟩
  | [], (l, w) :: fs, ts, us, h => by
    rw [entryTokens_cons] at h
    cases h
  | (k, v) :: es, [], ts, us, h => by
    rw [entryTokens_cons] at h
    cases h
  | (k, v) :: es, (l, w) :: fs, ts, us, h => by
    rw [entryTokens_cons, entryTokens_cons] at h
    simp only [List.cons_append, List.append_assoc, List.cons.injEq, Token.string.injEq, true_and] at h
    obtain ⟨rfl, h⟩ := h
    obtain ⟨rfl, hl⟩ := tokens_inj h
    match es, fs, hl with
    | [], [], hl => exact ⟨rfl, (List.cons.inj hl).2⟩
    | _ :: _, _ :: _, hl =>
      obtain ⟨hes, rfl⟩ := entryTokens_inj (List.cons.inj hl).2
      rw [hes]
      exact ⟨rfl, rfl⟩

end

end Value

namespace Json

/-- Where a reader of JSON text is: in a string, after a backslash there, or in neither place. -/
inductive Place
  | outside
  | inside
  | escaped
  deriving DecidableEq

def Place.after : Place → Char → Option Place
  | .outside, c => if c = '"' then some .inside else if c = ' ' ∨ c = '\\' then none else some .outside
  | .inside, c => if c = '"' then some .outside else if c = '\\' then some .escaped else some .inside
  | .escaped, c => if c = ' ' then none else some .inside

def Place.afterText (p : Place) (cs : List Char) : Option Place := cs.foldlM Place.after p

def Bare (c : Char) : Prop := c ≠ '"' ∧ c ≠ ' ' ∧ c ≠ '\\'

theorem bare_of_isDigit {c : Char} (h : Decimal.isDigit c = true) : Bare c := by
  refine ⟨?_, ?_, ?_⟩
  all_goals
    rintro rfl
    cases h

theorem bare_hexDigit {d : Nat} (h : d < 16) : Bare (Decimal.hexDigit d) := by
  have hd : ∀ {d : Nat}, d < 16 → Decimal.hexDigit d ≠ '"' ∧ Decimal.hexDigit d ≠ ' ' ∧
      Decimal.hexDigit d ≠ '\\' := by decide
  exact hd h

namespace Place

variable {p q : Place} {c : Char} {cs : List Char}

theorem afterText_append (p : Place) (cs ds : List Char) :
    p.afterText (cs ++ ds) = (p.afterText cs).bind fun q => q.afterText ds := List.foldlM_append

theorem afterText_cons (p : Place) (c : Char) (cs : List Char) :
    p.afterText (c :: cs) = (p.after c).bind fun q => q.afterText cs := rfl

theorem after_of_bare (hp : p ≠ .escaped) (h : Bare c) : p.after c = some p := by
  obtain ⟨hq, hs, hb⟩ := h
  cases p with
  | outside => rw [after, if_neg hq, if_neg (not_or.2 ⟨hs, hb⟩)]
  | inside => rw [after, if_neg hq, if_neg hb]
  | escaped => exact absurd rfl hp

theorem afterText_of_bare (hp : p ≠ .escaped) (h : ∀ c ∈ cs, Bare c) : p.afterText cs = some p := by
  induction cs with
  | nil => rfl
  | cons c cs ih =>
    obtain ⟨hc, h⟩ := List.forall_mem_cons.1 h
    rw [afterText_cons, after_of_bare hp hc, Option.bind_some, ih h]

theorem afterText_escape (c : Char) : inside.afterText (escape c) = some .inside := by
  rw [escape]
  split
  · rfl
  · split
    · rfl
    · rename_i hq hb
      split
      · rename_i hc
        split
        -- control characters without a short escape are spelled out in digits
        case h_6 =>
          have hzero : Bare '0' := bare_of_isDigit (by decide)
          have hhigh : Bare (Decimal.hexDigit (c.toNat / 16)) := bare_hexDigit (by omega)
          have hlow : Bare (Decimal.hexDigit (c.toNat % 16)) := bare_hexDigit (by omega)
          change inside.afterText
            ['0', '0', Decimal.hexDigit (c.toNat / 16), Decimal.hexDigit (c.toNat % 16)] = _
          apply afterText_of_bare (by decide)
          simp [hzero, hhigh, hlow]
        all_goals rfl
      · rw [afterText_cons, after, if_neg hq, if_neg hb]
        rfl

theorem afterText_quote (s : String) : outside.afterText (quote s) = some .outside := by
  have hs (cs : List Char) : inside.afterText (cs.flatMap escape) = some .inside := by
    induction cs with
    | nil => rfl
    | cons c cs ih => rw [List.flatMap_cons, afterText_append, afterText_escape, Option.bind_some, ih]
  rw [quote, List.cons_append, afterText_cons, after, if_pos rfl, Option.bind_some, afterText_append, hs]
  rfl

theorem afterText_intDigits (i : Int) : outside.afterText (Decimal.intDigits i) = some .outside := by
  have hd : ∀ c ∈ Decimal.natDigits i.natAbs, Bare c := fun c hc =>
    bare_of_isDigit (Decimal.isDigit_of_mem_natDigits hc)
  rw [Decimal.intDigits]
  split
  · have hminus : Bare '-' := ⟨by decide, by decide, by decide⟩
    exact afterText_of_bare (by decide) (List.forall_mem_cons.2 ⟨hminus, hd⟩)
  · exact afterText_of_bare (by decide) hd

theorem afterText_token {t : Token} (hf : ∀ x, t ≠ .float x) : outside.afterText t.text = some .outside := by
  cases t with
  | integer i => exact afterText_intDigits i.toInt
  | float x => exact absurd rfl (hf x)
  | string s => exact afterText_quote s
  | bool b => cases b <;> rfl
  | null | openArray | closeArray | openObject | closeObject | comma | colon => rfl

theorem afterText_tokens {ts : List Token} (hf : ∀ x, .float x ∉ ts) :
    outside.afterText (ts.flatMap Token.text) = some .outside := by
  induction ts with
  | nil => rfl
  | cons t ts ih =>
    have ht : ∀ x, t ≠ .float x := fun x h => hf x (h ▸ List.mem_cons_self)
    rw [List.flatMap_cons, afterText_append, afterText_token ht, Option.bind_some]
    exact ih fun x h => hf x (List.mem_cons_of_mem t h)

theorem eq_inside_of_after_blank (h : p.after ' ' = some q) : q = .inside := by
  cases p <;> cases h
  rfl

theorem ne_of_afterText (hp : inside.afterText cs = some p) (hq : outside.afterText cs = some q) : p ≠ q := by
  induction cs generalizing p q with
  | nil =>
    cases hp
    cases hq
    decide
  | cons c cs ih =>
    rw [afterText_cons, Option.bind_eq_some_iff] at hp hq
    obtain ⟨p', hp', hp⟩ := hp
    obtain ⟨q', hq', hq⟩ := hq
    simp only [after] at hp' hq'
    split at hp'
    · rename_i hc
      rw [if_pos hc] at hq'
      cases hp'
      cases hq'
      exact (ih hq hp).symm
    · rename_i hc
      rw [if_neg hc] at hq'
      split at hq'
      · cases hq'
      · rename_i hb
        rw [if_neg (not_or.1 hb).2] at hp'
        cases hp'
        cases hq'
        exact ih hp hq

end Place

end Json

namespace Value

variable {v w : Value}

theorem afterText_render (hf : ∀ x, .float x ∉ v.scalars) :
    Json.Place.outside.afterText v.render.toList = some .outside := by
  rw [render, String.toList_ofList]
  exact Json.Place.afterText_tokens fun x h => hf x (float_mem_scalars v h)

theorem render_inj (hv : ∀ x, .float x ∉ v.scalars) (hw : ∀ x, .float x ∉ w.scalars)
    (h : v.render = w.render) : v = w := by
  have ht : v.tokens.flatMap Token.text = w.tokens.flatMap Token.text := String.ofList_injective h
  have hl := lexemes_tokens hv
  rw [ht, lexemes_tokens hw] at hl
  have htokens : w.tokens = v.tokens := List.map_injective_iff.2 (fun _ _ => Except.ok.inj) hl
  have happ : w.tokens ++ [] = v.tokens ++ [] := by rw [htokens]
  exact (tokens_inj happ).1.symm

theorem render_ne_append_blank (hv : ∀ x, .float x ∉ v.scalars) (hw : ∀ x, .float x ∉ w.scalars)
    (cs : List Char) : v.render.toList ≠ cs ++ ' ' :: w.render.toList := by
  intro h
  have hv := afterText_render hv
  rw [h, Json.Place.afterText_append] at hv
  obtain ⟨p, -, hv⟩ := Option.bind_eq_some_iff.1 hv
  obtain ⟨q, hq, hv⟩ := Option.bind_eq_some_iff.1 hv
  obtain rfl := Json.Place.eq_inside_of_after_blank hq
  exact Json.Place.ne_of_afterText hv (afterText_render hw) rfl

theorem eq_of_blank_append {cs : List Char} (hv : ∀ x, .float x ∉ v.scalars) (hw : ∀ x, .float x ∉ w.scalars)
    (h : ' ' :: v.render.toList = cs ++ ' ' :: w.render.toList) : cs = [] ∧ v = w := by
  cases cs with
  | nil => exact ⟨rfl, render_inj hv hw (String.toList_inj.1 (List.cons.inj h).2)⟩
  | cons c cs => exact absurd (List.cons.inj h).2 (render_ne_append_blank hv hw cs)

theorem eq_of_append_blank {cs ds : List Char} (hv : ∀ x, .float x ∉ v.scalars) (hw : ∀ x, .float x ∉ w.scalars)
    (h : cs ++ ' ' :: v.render.toList = ds ++ ' ' :: w.render.toList) : cs = ds ∧ v = w := by
  rcases List.append_eq_append_iff.1 h with ⟨bs, rfl, hb⟩ | ⟨bs, rfl, hb⟩
  · obtain ⟨rfl, rfl⟩ := eq_of_blank_append hv hw hb
    exact ⟨(List.append_nil cs).symm, rfl⟩
  · obtain ⟨rfl, rfl⟩ := eq_of_blank_append hw hv hb
    exact ⟨List.append_nil ds, rfl⟩

end Value

namespace GrammarError

variable {e : GrammarError} {x y : String} {v w : Value}

theorem mismatch_message (x : String) (v : Value) : (mismatch x v).message.toList =
    ("Expected ".toList ++ x.toList ++ ", got ".toList ++ v.typeName.toList) ++ ' ' :: v.render.toList := by
  change s!"Expected {x}, got {v.typeName} {v.render}".toList = _
  simp [toString]

theorem mismatch_message_inj (hv : ∀ z, .float z ∉ v.scalars) (hw : ∀ z, .float z ∉ w.scalars)
    (h : (mismatch x v).message = (mismatch y w).message) : mismatch x v = mismatch y w := by
  have hl := congrArg String.toList h
  rw [mismatch_message, mismatch_message] at hl
  obtain ⟨hl, rfl⟩ := Value.eq_of_append_blank hv hw hl
  rw [List.append_cancel_right_eq, List.append_cancel_right_eq, List.append_cancel_left_eq,
    String.toList_inj] at hl
  rw [hl]

theorem eq_mismatch_of_message (h : e.message = (mismatch x v).message) : ∃ y w, e = .mismatch y w := by
  have hl := congrArg String.toList h
  rw [mismatch_message] at hl
  cases e with
  | mismatch y w => exact ⟨y, w, rfl⟩
  | malformed m =>
    change s!"Invalid grammar syntax: {m.message}.".toList = _ at hl
    simp [toString] at hl
  | unknownSelector s k =>
    change s!"Unknown {k.selectorNoun}: '{s}' in '{k.words}' clause".toList = _ at hl
    simp [toString] at hl
  | ambiguous first second subject =>
    change (s!"Ambiguous selection: '{first.text}' and '{second.text}' both match " ++
      s!"{first.kind.subjectName} '{subject}'").toList = _ at hl
    simp [toString] at hl
  | unsatisfied g =>
    change s!"Unable to satisfy '{g.text}', failure forced.".toList = _ at hl
    simp [toString] at hl
  | unmatched field =>
    cases field with
    | none =>
      change "No grammar clause matched and no default is available".toList = _ at hl
      simp at hl
    | some field =>
      change s!"No grammar clause matched for required field '{field}'".toList = _ at hl
      simp [toString] at hl

end GrammarError

namespace Value

/-- A value without floats is known by its rendering. It is read back up to the order of keys; no other value
is rendered as it is; and no other error has the message of one that quotes it. -/
theorem render_identifies {v : Value} (hf : ∀ x, .float x ∉ v.scalars) :
    (v.Distinct → v.levels ≤ Json.maxDepth → ∃ w, Json.read v.render = .ok w ∧ v.Similar w) ∧
    (∀ w : Value, (∀ x, .float x ∉ w.scalars) → (v.render = w.render ↔ v = w)) ∧
    ∀ expected (e : GrammarError), (∀ x w, e = .mismatch x w → ∀ z, .float z ∉ w.scalars) →
      (e.message = (GrammarError.mismatch expected v).message ↔ e = .mismatch expected v) := by
  refine ⟨?_, ?_, ?_⟩
  · intro hd hl
    exact ⟨v.sortKeys, read_render hf hl, similar_sortKeys v hd⟩
  · intro w hw
    exact ⟨render_inj hf hw, fun h => h ▸ rfl⟩
  · intro expected e he
    constructor
    · intro h
      obtain ⟨x, w, rfl⟩ := GrammarError.eq_mismatch_of_message h
      exact GrammarError.mismatch_message_inj (he x w rfl) hf h
    · rintro rfl
      rfl

def lookalikes : Value :=
  .mapping [("b\"\\", .sequence [.integer Int64.minValue, .string "null", .unset]), ("a\n", .string "1")]

theorem render_identifies_lookalikes : (∀ x, .float x ∉ lookalikes.scalars) ∧ lookalikes.Distinct ∧
    lookalikes.levels ≤ Json.maxDepth ∧ lookalikes.sortKeys ≠ lookalikes ∧
    (∃ w, Json.read lookalikes.render = .ok w ∧ lookalikes.Similar w) ∧
    lookalikes.render ≠ lookalikes.sortKeys.render ∧
    ∀ x, (GrammarError.mismatch x lookalikes).message ≠
      (GrammarError.mismatch "a string" (.string "1")).message := by
  have hf : ∀ x, .float x ∉ lookalikes.scalars := by
    simp [lookalikes, scalars, scalarsList, scalarsEntries]
  have hs : ∀ x, .float x ∉ lookalikes.sortKeys.scalars := by
    have hk : lookalikes.sortKeys.scalars = [.string "1", .integer Int64.minValue, .string "null"] := by
      decide
    simp [hk]
  have hd : lookalikes.Distinct := by
    simp [lookalikes, Distinct, DistinctEntries, DistinctList]
  have hl : lookalikes.levels ≤ Json.maxDepth := by decide
  have hne : lookalikes.sortKeys ≠ lookalikes := by decide
  obtain ⟨hread, hrender, -⟩ := render_identifies hf
  refine ⟨hf, hd, hl, hne, hread hd hl, ?_, ?_⟩
  · intro h
    exact hne ((hrender _ hs).1 h).symm
  · intro x h
    have hone : ∀ x, .float x ∉ (Value.string "1").scalars := by simp [scalars]
    obtain ⟨-, -, hmessage⟩ := render_identifies hone
    have he := (hmessage "a string" (.mismatch x lookalikes) (by rintro _ _ ⟨⟩; exact hf)).1 h
    cases he

end Value

end Recipe
