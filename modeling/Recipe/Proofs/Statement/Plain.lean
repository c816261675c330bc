import Recipe.Proofs.Statement.Grammar
import Recipe.Proofs.Value.Similar

namespace Recipe

open Clause (elseFail isReserved)

namespace Value

mutual

def plain : Value → Bool
  | .unset | .scalar _ => true
  | .sequence vs => plainList vs
  | .mapping es => !hasReserved es && plainEntries es

def plainList : List Value → Bool
  | [] => true
  | v :: vs => isLiteralItem v && v.plain && plainList vs

def plainEntries : List (String × Value) → Bool
  | [] => true
  | (_, v) :: es => v.plain && plainEntries es

end

mutual

def hasFailItem : Value → Bool
  | .unset | .scalar _ => false
  | .sequence vs => hasFailItemList vs
  | .mapping es => hasFailItemEntries es

def hasFailItemList : List Value → Bool
  | [] => false
  | v :: vs => v = .string elseFail || v.hasFailItem || hasFailItemList vs

def hasFailItemEntries : List (String × Value) → Bool
  | [] => false
  | (_, v) :: es => v.hasFailItem || hasFailItemEntries es

end

mutual

theorem plain_iff : ∀ v : Value,
    v.plain ↔ v.reserves = false ∧ v.hasNullItem = false ∧ v.hasFailItem = false
  | .unset | .scalar _ => by simp [plain, reserves, hasNullItem, hasFailItem]
  | .sequence vs => plainList_iff vs
  | .mapping es => by
    simp [plain, reserves, hasNullItem, hasFailItem, plainEntries_iff es, and_assoc]

theorem plainList_iff : ∀ vs : List Value, plainList vs ↔
    reservesList vs = false ∧ hasNullItemList vs = false ∧ hasFailItemList vs = false
  | [] => by simp [plainList, reservesList, hasNullItemList, hasFailItemList]
  | v :: vs => by
    have hv := plain_iff v
    have hvs := plainList_iff vs
    have hl : isLiteralItem v ∧ v.plain ↔ v.isUnset = false ∧ v ≠ .string elseFail ∧ v.plain := by
      cases v <;> simp [isLiteralItem, isUnset, plain]
    rw [plainList, Bool.and_eq_true, Bool.and_eq_true, hl, hv, hvs]
    simp only [reservesList, hasNullItemList, hasFailItemList, Bool.or_eq_false_iff,
      decide_eq_false_iff_not]
    tauto

theorem plainEntries_iff : ∀ es : List (String × Value), plainEntries es ↔
    reservesEntries es = false ∧ hasNullItemEntries es = false ∧ hasFailItemEntries es = false
  | [] => by simp [plainEntries, reservesEntries, hasNullItemEntries, hasFailItemEntries]
  | (k, v) :: es => by
    simp only [plainEntries, Bool.and_eq_true, plain_iff v, plainEntries_iff es, reservesEntries,
      hasNullItemEntries, hasFailItemEntries, Bool.or_eq_false_iff]
    tauto

end

theorem hasReserved_eq_any (es : List (String × Value)) :
    hasReserved es = (Entries.keys es).any isReserved := by
  rw [hasReserved, Entries.keys, List.any_map]
  rfl

theorem SimilarUnordered.hasReserved_eq {es fs : List (String × Value)} (h : SimilarUnordered es fs) :
    hasReserved es = hasReserved fs := by
  obtain ⟨gs, h, hp⟩ := h
  rw [hasReserved_eq_any, hasReserved_eq_any, h.keys_eq]
  exact (hp.map Prod.fst).any_eq

theorem Similar.isLiteralItem_eq {v w : Value} (h : v.Similar w) : isLiteralItem v = isLiteralItem w := by
  cases h with
  | mapping h hp => simp only [isLiteralItem, SimilarUnordered.hasReserved_eq ⟨_, h, hp⟩]
  | unset | scalar | sequence => rfl

theorem plainEntries_perm {es fs : List (String × Value)} (h : es.Perm fs) :
    plainEntries es = plainEntries fs := by
  induction h with
  | nil => rfl
  | cons e _ ih => simp only [plainEntries, ih]
  | swap e e' es => simp only [plainEntries, Bool.and_left_comm]
  | trans _ _ ih ih' => rw [ih, ih']

theorem nestingEntries_perm {es fs : List (String × Value)} (h : es.Perm fs) :
    nestingEntries es = nestingEntries fs := by
  induction h with
  | nil => rfl
  | cons e _ ih => simp only [nestingEntries, ih]
  | swap e e' es => simp only [nestingEntries, Nat.max_left_comm]
  | trans _ _ ih ih' => rw [ih, ih']

mutual

theorem Similar.plain_eq {v w : Value} : v.Similar w → v.plain = w.plain
  | .unset | .scalar => rfl
  | .sequence h => h.plain_eq
  | .mapping h hp => by
    rw [plain, plain, SimilarUnordered.hasReserved_eq ⟨_, h, hp⟩, h.plain_eq, plainEntries_perm hp]

theorem SimilarList.plain_eq {vs ws : List Value} : SimilarList vs ws → plainList vs = plainList ws
  | .nil => rfl
  | .cons hv hvs => by rw [plainList, plainList, hv.isLiteralItem_eq, hv.plain_eq, hvs.plain_eq]

theorem SimilarEntries.plain_eq {es fs : List (String × Value)} :
    SimilarEntries es fs → plainEntries es = plainEntries fs
  | .nil => rfl
  | .cons hv hes => by rw [plainEntries, plainEntries, hv.plain_eq, hes.plain_eq]

end

mutual

theorem Similar.nesting_eq {v w : Value} : v.Similar w → v.nesting = w.nesting
  | .unset | .scalar => rfl
  | .sequence h => h.nesting_eq
  | .mapping h hp => by rw [nesting, nesting, h.nesting_eq, nestingEntries_perm hp]

theorem SimilarList.nesting_eq {vs ws : List Value} : SimilarList vs ws → nestingList vs = nestingList ws
  | .nil => rfl
  | .cons hv hvs => by rw [nestingList, nestingList, hv.nesting_eq, hvs.nesting_eq]

theorem SimilarEntries.nesting_eq {es fs : List (String × Value)} :
    SimilarEntries es fs → nestingEntries es = nestingEntries fs
  | .nil => rfl
  | .cons hv hes => by rw [nestingEntries, nestingEntries, hv.nesting_eq, hes.nesting_eq]

end

end Value

namespace Statement

mutual

def ofPlain : Value → Statement
  | .sequence vs => .sequence (ofPlainList vs)
  | v => .leaf v

def ofPlainList : List Value → List Statement
  | [] => []
  | v :: vs => ofPlain v :: ofPlainList vs

end

def ofPlainEntries (es : List (String × Value)) : List (String × Statement) :=
  es.map fun e => (e.1, ofPlain e.2)

mutual

theorem hasClause_ofPlain : ∀ v : Value, (ofPlain v).hasClause = false
  | .unset | .scalar _ | .mapping _ => rfl
  | .sequence vs => hasClause_ofPlainList vs

theorem hasClause_ofPlainList : ∀ vs : List Value, hasClauseList (ofPlainList vs) = false
  | [] => rfl
  | v :: vs => by rw [ofPlainList, hasClauseList, hasClause_ofPlain v, hasClause_ofPlainList vs]; rfl

end

theorem hasClause_ofPlainEntries (es : List (String × Value)) :
    hasClauseEntries (ofPlainEntries es) = false := by
  induction es with
  | nil => rfl
  | cons e es ih =>
    rw [ofPlainEntries, List.map_cons, hasClauseEntries, hasClause_ofPlain]
    exact ih

variable {o : Options} {d m n : Nat} {g : Guard} {α β : Type} {x : α} {y : β}

def plainResult (o : Options) (d n : Nat) (x : α) (g : Guard) : Except GrammarError (α × Guard) :=
  if d + n ≤ o.maxDepth then .ok (x, g) else .error (.malformed (.depth o.maxDepth))

theorem plainResult_bind {p : Parse α} {f : α → Parse β} (hp : p g = plainResult o (d + 1) n x g)
    (hf : f x g = plainResult o d m y g) : (p >>= f) g = plainResult o d (max (n + 1) m) y g := by
  rw [plainResult] at hp
  split at hp
  · rw [Parse.bind_of_ok hp, hf, plainResult, plainResult]
    congr 1
    apply propext
    omega
  · rw [Parse.bind_of_error hp, plainResult, if_neg (by omega)]

theorem plainResult_within {f : Unit → Parse α} (hf : d ≤ o.maxDepth → f () g = plainResult o d n x g) :
    (Parse.within o d >>= f) g = plainResult o d n x g := by
  by_cases hd : d ≤ o.maxDepth
  · rw [Parse.bind_of_ok (Parse.within_of_le hd), hf hd]
  · rw [Parse.bind_of_error (Parse.within_of_lt (by omega)), plainResult, if_neg (by omega)]

theorem plainResult_zero (hd : d ≤ o.maxDepth) (x : α) (g : Guard) :
    (pure x : Parse α) g = plainResult o d 0 x g := by
  rw [plainResult, if_pos (by omega)]
  rfl

theorem plainResult_map {p : Parse α} {f : α → Parse β} (hp : p g = plainResult o d n x g)
    (hf : f x g = .ok (y, g)) : (p >>= f) g = plainResult o d n y g := by
  rw [plainResult] at hp ⊢
  split at hp
  · rw [Parse.bind_of_ok hp, hf, if_pos (by assumption)]
  · rw [Parse.bind_of_error hp, if_neg (by assumption)]

mutual

theorem parseValue_plain (d : Nat) (g : Guard) : ∀ v : Value, v.plain →
    parseValue o d v g = plainResult o d v.nesting (ofPlain v) g
  | .unset, _ | .scalar s, _ => by
    rw [parseValue]
    exact plainResult_within fun hd => plainResult_zero hd _ g
  | .sequence vs, h => by
    rw [parseValue]
    apply plainResult_within
    intro hd
    exact plainResult_map (parseItems_plain d [] g hd vs h) rfl
  | .mapping es, h => by
    rw [Value.plain, Bool.and_eq_true, Bool.not_eq_true'] at h
    rw [parseValue]
    apply plainResult_within
    intro hd
    rw [if_neg (by simp [h.1])]
    apply plainResult_map (parseEntries_plain d g hd es h.2)
    rw [hasClause_ofPlainEntries]
    rfl

theorem parseItems_plain (d : Nat) (ss : List Statement) (g : Guard) (hd : d ≤ o.maxDepth) :
    ∀ vs : List Value, Value.plainList vs → parseItems o d ⟨ss, none⟩ vs g =
      plainResult o d (Value.nestingList vs) ⟨ss ++ ofPlainList vs, none⟩ g
  | [], _ => by
    rw [ofPlainList, List.append_nil]
    exact plainResult_zero hd _ g
  | v :: vs, h => by
    rw [Value.plainList, Bool.and_eq_true, Bool.and_eq_true] at h
    rw [parseItems_literal h.1.1]
    apply plainResult_bind (parseValue_plain (d + 1) g v h.1.2)
    rw [ofPlainList, List.append_cons]
    exact parseItems_plain d (ss ++ [ofPlain v]) g hd vs h.2

theorem parseEntries_plain (d : Nat) (g : Guard) (hd : d ≤ o.maxDepth) :
    ∀ es : List (String × Value), Value.plainEntries es →
      parseEntries o d es g = plainResult o d (Value.nestingEntries es) (ofPlainEntries es) g
  | [], _ => plainResult_zero hd _ g
  | (k, v) :: es, h => by
    rw [Value.plainEntries, Bool.and_eq_true] at h
    rw [parseEntries]
    apply plainResult_bind (parseValue_plain (d + 1) g v h.1)
    exact plainResult_map (parseEntries_plain d g hd es h.2) rfl

end

mutual

theorem Reads.plain {d : Nat} {g : Guard} {v : Value} {t : Statement} {g' : Guard} :
    Reads o d g v t g' → v.reserves = false → v.plain
  | .unset _, _ | .scalar _, _ => rfl
  | .sequence _ hi _, h => hi.plain rfl h
  | .single _ hr _ _, h | .clauses _ hr _ _ _, h => by simp [Value.reserves, hr] at h
  | .literal _ hr hi _, h | .mapping _ hr hi _, h => by
    have hes := hi.plain (by simpa [Value.reserves, hr] using h)
    simp [Value.plain, hr, hes]

theorem ReadsItems.plain {d : Nat} {a : Alternation} {g : Guard} {vs : List Value}
    {b : Alternation} {g' : Guard} : ReadsItems o d a g vs b g' → a.clause? = none →
      Value.reservesList vs = false → Value.plainList vs
  | .nil, _, _ => rfl
  | .fail _ hb _, ha, _ => by simpa [ha] using (Alternation.isSome_of_branch hb).1
  | .literal hv ht hl hi, _, h => by
    rw [Value.reservesList, Bool.or_eq_false_iff] at h
    obtain ⟨ss, -, rfl⟩ := Alternation.literal_eq_ok.1 hl
    simp [Value.plainList, hv, ht.plain h.1, hi.plain rfl h.2]
  | .clauses hr _ _, _, h => by simp [Value.reservesList, Value.reserves, hr] at h

theorem ReadsEntries.plain {d : Nat} {g : Guard} {es : List (String × Value)}
    {fs : List (String × Statement)} {g' : Guard} : ReadsEntries o d g es fs g' →
      Value.reservesEntries es = false → Value.plainEntries es
  | .nil, _ => rfl
  | .cons hs hi, h => by
    rw [Value.reservesEntries, Bool.or_eq_false_iff] at h
    simp [Value.plainEntries, hs.plain h.1, hi.plain h.2]

end

theorem parse_of_plain {raw : Value} (h : raw.plain) (hd : raw.nesting ≤ o.maxDepth) :
    parse o raw = .ok (ofPlain raw) := by
  rw [parse, StateT.run', parseValue_plain 0 _ raw h, plainResult, if_pos (by omega)]
  rfl

end Statement

end Recipe
