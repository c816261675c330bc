import Mathlib.Data.Nat.Init
import Recipe.Json.Lexeme
import Recipe.Proofs.Except

namespace Recipe

namespace Decimal

theorem hexValue_hexDigit : ∀ {d : Nat}, d < 16 → hexValue? (hexDigit d) = some d := by decide

theorem head?_natDigits_ne_zero {n : Nat} (hn : n ≠ 0) : (natDigits n).head? ≠ some '0' := by
  fun_induction natDigits n with
  | case1 n h =>
    have hd : ∀ d < 10, d ≠ 0 → digitChar d ≠ '0' := by decide
    rw [List.head?_cons, ne_eq, Option.some.injEq]
    exact hd n h hn
  | case2 n h ih =>
    have ih := ih (by omega)
    cases hd : natDigits (n / 10) with
    | nil => exact absurd hd (natDigits_ne_nil _)
    | cons d ds =>
      rw [hd] at ih
      exact ih

theorem length_natDigits_zero : (natDigits 0).length = 1 := by
  rw [natDigits]
  rfl

theorem not_leading_zero (n : Nat) :
    ¬ (1 < (natDigits n).length ∧ (natDigits n).head? = some '0') := by
  rintro ⟨hl, hh⟩
  by_cases hn : n = 0
  · subst hn
    rw [length_natDigits_zero] at hl
    exact absurd hl (by decide)
  · exact head?_natDigits_ne_zero hn hh

theorem natDigits_eq_cons (n : Nat) : ∃ d ds, natDigits n = d :: ds ∧ isDigit d = true := by
  cases h : natDigits n with
  | nil => exact absurd h (natDigits_ne_nil n)
  | cons d ds => exact ⟨d, ds, rfl, isDigit_of_mem_natDigits (h ▸ List.mem_cons_self)⟩

end Decimal

namespace Json

/-- A number may end before this text. -/
def EndsNumber (cs : List Char) : Prop :=
  ∀ c, cs.head? = some c → Decimal.isDigit c = false ∧ c ≠ '.' ∧ c ≠ 'e' ∧ c ≠ 'E'

theorem readDigits_natDigits (n : Nat) {cs : List Char} (hc : EndsNumber cs) :
    readDigits (Decimal.natDigits n ++ cs) = .ok (Decimal.natDigits n, cs) := by
  have hd : ∀ c ∈ Decimal.natDigits n, Decimal.isDigit c = true := fun c =>
    Decimal.isDigit_of_mem_natDigits
  have ht : cs.takeWhile Decimal.isDigit = [] ∧ cs.dropWhile Decimal.isDigit = cs := by
    cases cs with
    | nil => exact ⟨rfl, rfl⟩
    | cons c cs =>
      have h := (hc c rfl).1
      simp [h]
  rw [readDigits, List.takeWhile_append_of_pos hd, List.dropWhile_append_of_pos hd, ht.1, ht.2,
    List.append_nil]
  cases h : Decimal.natDigits n with
  | nil => exact absurd h (Decimal.natDigits_ne_nil n)
  | cons d ds => rfl

theorem appendDigits_concat {bound n m : Nat} {ds : List Char} {d : Char}
    (h : appendDigits bound n ds = (m, [])) (hd : 10 * m + Decimal.digitValue d < bound) :
    appendDigits bound n (ds ++ [d]) = (10 * m + Decimal.digitValue d, []) := by
  fun_induction appendDigits bound n ds with
  | case1 n =>
    cases h
    exact if_pos hd
  | case2 n c cs hc ih =>
    rw [List.cons_append, appendDigits, if_pos hc]
    exact ih h
  | case3 n c cs hc => cases h

theorem appendDigits_natDigits {bound n : Nat} (hn : n < bound) :
    appendDigits bound 0 (Decimal.natDigits n) = (n, []) := by
  fun_induction Decimal.natDigits n with
  | case1 n h =>
    have hd := Decimal.digitValue_digitChar h
    simp [appendDigits, hd, hn]
  | case2 n h ih =>
    have hd := Decimal.digitValue_digitChar (Nat.mod_lt n (show 0 < 10 by decide))
    have hsum : 10 * (n / 10) + n % 10 = n := Nat.div_add_mod n 10
    have hlast : 10 * (n / 10) + Decimal.digitValue (Decimal.digitChar (n % 10)) < bound := by omega
    rw [appendDigits_concat (ih (by omega)) hlast, hd, hsum]

theorem readRest_of_endsNumber {negative : Bool} {n : Nat} {i : Int64} {cs : List Char}
    (hi : i.toInt = if negative then -(n : Int) else n) (hn : negative = true → n ≠ 0)
    (hc : EndsNumber cs) : readRest negative n [] cs = .ok (.integer i, cs) := by
  have hz : ¬(negative = true ∧ n = 0) := fun h => hn h.1 h.2
  fun_cases readRest negative n [] cs with
  | case1 r => exact absurd rfl (hc _ rfl).2.1
  | case2 r => exact absurd rfl (hc _ rfl).2.2.1
  | case3 r => exact absurd rfl (hc _ rfl).2.2.2
  | case4 =>
    change Except.ok (Token.integer (.ofInt (if negative then -(n : Int) else n)), cs) = _
    rw [← hi, Int64.ofInt_toInt]
  | case5 =>
    rename_i hmiss _ _ _
    have hfit : Int64.minValue.toInt ≤ i.toInt ∧ i.toInt ≤ Int64.maxValue.toInt :=
      ⟨i.minValue_le_toInt, i.toInt_le⟩
    rw [hi] at hfit
    exact absurd ⟨rfl, hz, hfit⟩ hmiss

theorem readUnsigned_natDigits {negative : Bool} {n : Nat} {i : Int64} {cs : List Char}
    (hi : i.toInt = if negative then -(n : Int) else n) (hn : negative = true → n ≠ 0)
    (hc : EndsNumber cs) :
    readUnsigned negative (Decimal.natDigits n ++ cs) = .ok (.integer i, cs) := by
  have hfit : n < UInt64.size := by
    have hmin := i.le_toInt
    have hmax := i.toInt_lt
    simp only [UInt64.size]
    split at hi <;> omega
  rw [readUnsigned, readDigits_natDigits n hc]
  simp only [Except.ok_bind, if_neg (Decimal.not_leading_zero n), appendDigits_natDigits hfit]
  exact readRest_of_endsNumber hi hn hc

theorem readNumber_intDigits (i : Int64) {cs : List Char} (hc : EndsNumber cs) :
    readNumber (Decimal.intDigits i.toInt ++ cs) = .ok (.integer i, cs) := by
  rw [Decimal.intDigits]
  split
  · have hi : i.toInt = -(i.toInt.natAbs : Int) := by omega
    have hz : i.toInt.natAbs ≠ 0 := by omega
    exact readUnsigned_natDigits hi (fun _ => hz) hc
  · have hi : i.toInt = i.toInt.natAbs := by omega
    have hr : readUnsigned false (Decimal.natDigits i.toInt.natAbs ++ cs) = .ok (.integer i, cs) :=
      readUnsigned_natDigits hi Bool.noConfusion hc
    obtain ⟨d, ds, hd, hdigit⟩ := Decimal.natDigits_eq_cons i.toInt.natAbs
    rw [hd, List.cons_append] at hr ⊢
    have hminus : d ≠ '-' := by
      rintro rfl
      cases hdigit
    rw [readNumber, hr]
    simpa using hminus

def stringText (cs : List Char) : Except Error (List Char × List Char) :=
  (readString cs).map fun p => (p.1, p.2.1)

theorem stringText_quote (cs : List Char) : stringText ('"' :: cs) = .ok ([], cs) := by
  rw [stringText, readString]
  rfl

theorem stringText_of_plain {c : Char} (hq : c ≠ '"') (hb : c ≠ '\\') (hc : ¬ c.toNat < 32)
    (cs : List Char) : stringText (c :: cs) = (stringText cs).map fun p => (c :: p.1, p.2) := by
  rw [stringText, stringText, readString, if_neg hq, if_neg hb, if_neg hc]
  cases readString cs <;> rfl

theorem stringText_of_escape {c : Char} {cs ds : List Char} {h}
    (he : readEscape cs = .ok (c, ⟨ds, h⟩)) :
    stringText ('\\' :: cs) = (stringText ds).map fun p => (c :: p.1, p.2) := by
  rw [stringText, stringText, readString, if_neg (by decide), if_pos rfl, he]
  dsimp only [Except.ok_bind]
  cases readString ds <;> rfl

theorem fourHexDigits_hexDigit {n : Nat} (hn : n < 256) :
    fourHexDigits? '0' '0' (Decimal.hexDigit (n / 16)) (Decimal.hexDigit (n % 16)) = some n := by
  have hz : Decimal.hexValue? '0' = some 0 := by decide
  rw [fourHexDigits?, hz, Decimal.hexValue_hexDigit (by omega), Decimal.hexValue_hexDigit (by omega)]
  simp
  omega

theorem readEscape_control {n : Nat} (hn : n < 32) (cs : List Char) :
    ∃ h, readEscape
        ('u' :: '0' :: '0' :: Decimal.hexDigit (n / 16) :: Decimal.hexDigit (n % 16) :: cs) =
      .ok (Char.ofNat n, ⟨cs, h⟩) := by
  refine ⟨by simp; omega, ?_⟩
  simp only [readEscape, readHex, fourHexDigits_hexDigit (show n < 256 by omega), Except.ok_bind]
  rw [if_neg (by omega), if_pos (by omega)]

theorem stringText_escape (c : Char) (cs : List Char) :
    stringText (escape c ++ cs) = (stringText cs).map fun p => (c :: p.1, p.2) := by
  rw [escape]
  split
  · rename_i hc
    subst hc
    exact stringText_of_escape rfl
  · split
    · rename_i hc
      subst hc
      exact stringText_of_escape rfl
    · rename_i hq hb
      split
      · rename_i hc
        -- control characters with a short escape are told by their code, all others spelled out
        have hcode : Char.ofNat c.toNat = c := Char.ofNat_toNat c
        split
        case h_6 =>
          obtain ⟨h, he⟩ := readEscape_control hc cs
          rw [hcode] at he
          exact stringText_of_escape he
        all_goals
          rename_i h
          rw [h] at hcode
          subst hcode
          exact stringText_of_escape rfl
      · exact stringText_of_plain hq hb (by assumption) cs

theorem stringText_escaped (s cs : List Char) :
    stringText (s.flatMap escape ++ '"' :: cs) = .ok (s, cs) := by
  induction s with
  | nil => exact stringText_quote cs
  | cons c s ih =>
    rw [List.flatMap_cons, List.append_assoc, stringText_escape, ih]
    rfl

theorem readToken_quote (s : String) (cs : List Char) :
    readToken (quote s ++ cs) = .ok (.string s, cs) := by
  have h := stringText_escaped s.toList cs
  rw [stringText] at h
  rw [quote, List.cons_append, List.cons_append, List.append_assoc, List.singleton_append]
  change (readString _).map (fun p => (Token.string (String.ofList p.1), p.2.1)) = _
  cases hr : readString (s.toList.flatMap escape ++ '"' :: cs) with
  | error e =>
    rw [hr] at h
    cases h
  | ok p =>
    rw [hr] at h
    simp only [Except.map, Except.ok.injEq, Prod.mk.injEq] at h ⊢
    rw [h.1, h.2, String.ofList_toList]
    exact ⟨rfl, rfl⟩

theorem readToken_of_digit {c : Char} (hc : Decimal.isDigit c = true) (cs : List Char) :
    readToken (c :: cs) = readNumber (c :: cs) := by
  have hne (d : Char) (hd : Decimal.isDigit d = false) : c ≠ d := by
    rintro rfl
    rw [hc] at hd
    cases hd
  rw [readToken, if_neg (hne _ (by decide)), if_neg (hne _ (by decide)), if_neg (hne _ (by decide)),
    if_neg (hne _ (by decide)), if_neg (hne _ (by decide)), if_neg (hne _ (by decide)),
    if_neg (hne _ (by decide)), if_neg (hne _ (by decide)), if_neg (hne _ (by decide)),
    if_neg (hne _ (by decide)), if_pos (.inr hc)]

theorem readToken_intDigits (i : Int64) {cs : List Char} (hc : EndsNumber cs) :
    readToken (Decimal.intDigits i.toInt ++ cs) = .ok (.integer i, cs) := by
  rw [← readNumber_intDigits i hc, Decimal.intDigits]
  split
  · rfl
  · obtain ⟨d, ds, hd, hdigit⟩ := Decimal.natDigits_eq_cons i.toInt.natAbs
    rw [hd]
    exact readToken_of_digit hdigit _

theorem readToken_text {t : Token} {cs : List Char} (hf : ∀ x, t ≠ .float x)
    (hi : ∀ i, t = .integer i → EndsNumber cs) : readToken (t.text ++ cs) = .ok (t, cs) := by
  cases t with
  | integer i => exact readToken_intDigits i (hi i rfl)
  | float x => exact absurd rfl (hf x)
  | string s => exact readToken_quote s cs
  | bool b => cases b <;> rfl
  | null | openArray | closeArray | openObject | closeObject | comma | colon => rfl

theorem text_eq_cons {t : Token} (hf : ∀ x, t ≠ .float x) :
    ∃ c cs, t.text = c :: cs ∧ isSpace c = false := by
  cases t with
  | integer i =>
    rw [Token.text, Decimal.intDigits]
    split
    · exact ⟨_, _, rfl, rfl⟩
    · obtain ⟨d, ds, hd, hdigit⟩ := Decimal.natDigits_eq_cons i.toInt.natAbs
      refine ⟨d, ds, hd, ?_⟩
      rw [isSpace]
      have hne (c : Char) (hc : Decimal.isDigit c = false) : (d == c) = false := by
        rw [beq_eq_false_iff_ne]
        rintro rfl
        rw [hdigit] at hc
        cases hc
      rw [hne _ (by decide), hne _ (by decide), hne _ (by decide), hne _ (by decide)]
      rfl
  | float x => exact absurd rfl (hf x)
  | bool b => cases b <;> exact ⟨_, _, rfl, rfl⟩
  | null | string | openArray | closeArray | openObject | closeObject | comma | colon =>
    exact ⟨_, _, rfl, rfl⟩

/-- No number among the tokens runs into the text of the next one. -/
def Separated : List Token → Prop
  | [] => True
  | t :: ts => (∀ i, t = .integer i → EndsNumber (ts.flatMap Token.text)) ∧ Separated ts

theorem lexemesWithin_text {ts : List Token} (hf : ∀ x, .float x ∉ ts) (hs : Separated ts) {n : Nat}
    (hn : (ts.flatMap Token.text).length ≤ n) :
    (lexemesWithin n (ts.flatMap Token.text)).map Lexeme.token = ts.map .ok := by
  induction ts generalizing n with
  | nil => cases n <;> rfl
  | cons t ts ih =>
    have hft : ∀ x, t ≠ .float x := fun x h => hf x (h ▸ List.mem_cons_self)
    obtain ⟨c, cs, hc, hspace⟩ := text_eq_cons hft
    have hr := readToken_text hft hs.1
    rw [List.flatMap_cons] at hn ⊢
    rw [hc, List.cons_append] at hn hr ⊢
    cases n with
    | zero => cases hn
    | succ n =>
      rw [lexemesWithin, List.dropWhile_cons_of_neg (by simp [hspace])]
      dsimp only
      rw [hr]
      simp only [List.map_cons, List.cons.injEq, true_and]
      apply ih (fun x h => hf x (List.mem_cons_of_mem t h)) hs.2
      simp only [List.length_cons, List.length_append] at hn
      omega

theorem lexemes_text {ts : List Token} (hf : ∀ x, .float x ∉ ts) (hs : Separated ts) :
    (lexemes (ts.flatMap Token.text)).map Lexeme.token = ts.map .ok :=
  lexemesWithin_text hf hs (Nat.le_refl _)

end Json

end Recipe
