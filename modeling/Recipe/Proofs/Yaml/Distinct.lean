import Mathlib.Data.List.Nodup
import Recipe.Proofs.Value.Similar
import Recipe.Yaml.Document
import Recipe.Yaml.Value

namespace Recipe.Yaml

namespace Node

mutual

def Distinct : Node → Prop
  | .array ns => DistinctList ns
  | .hash es => (es.map Prod.fst).Nodup ∧ DistinctEntries es
  | .null | .bool _ | .integer _ | .real _ | .string _ | .alias _ | .bad => True

def DistinctList : List Node → Prop
  | [] => True
  | n :: ns => n.Distinct ∧ DistinctList ns

def DistinctEntries : List (Node × Node) → Prop
  | [] => True
  | (_, n) :: es => n.Distinct ∧ DistinctEntries es

end

variable {k n : Node} {ns : List Node} {es : List (Node × Node)}

theorem distinct_null : null.Distinct := trivial

theorem distinctList_nil : DistinctList [] := trivial

theorem distinctList_concat : DistinctList (ns ++ [n]) ↔ DistinctList ns ∧ n.Distinct := by
  induction ns with
  | nil => simp [DistinctList]
  | cons m ns ih => rw [List.cons_append, DistinctList, DistinctList, ih, and_assoc]

theorem distinctEntries_concat : DistinctEntries (es ++ [(k, n)]) ↔ DistinctEntries es ∧ n.Distinct := by
  induction es with
  | nil => simp [DistinctEntries]
  | cons e es ih => rw [List.cons_append, DistinctEntries, DistinctEntries, ih, and_assoc]

theorem distinct_ofPlain (s : String) : (ofPlain s).Distinct := by
  rw [ofPlain]
  repeat' split
  all_goals trivial

theorem distinct_ofTyped (type s : String) : (ofTyped type s).Distinct := by
  rw [ofTyped]
  split
  · cases readBool s <;> trivial
  · split
    · cases readDecimal s <;> trivial
    · repeat' split
      all_goals trivial

theorem distinct_ofScalar (plain : Bool) (s : String) (t : Typing) : (ofScalar plain s t).Distinct := by
  rw [ofScalar.eq_def]
  split
  · split
    · exact distinct_ofPlain s
    · trivial
  · split
    · exact distinct_ofTyped _ s
    · trivial
  · trivial

theorem key_eq_ok {k : String} : n.key = .ok k ↔ n = .string k := by
  cases n <;> simp [key]

theorem keys_of_toEntries : ∀ {es : List (Node × Node)} {fs : Entries Value}, toEntries es = .ok fs →
    es.map Prod.fst = fs.keys.map .string
  | [], fs, h => by
    rw [toEntries] at h
    cases h
    rfl
  | (k, n) :: es, fs, h => by
    rw [toEntries] at h
    obtain ⟨l, hl, h⟩ := Except.bind_eq_ok.1 h
    obtain ⟨v, -, h⟩ := Except.bind_eq_ok.1 h
    obtain ⟨fs, hfs, h⟩ := Except.bind_eq_ok.1 h
    cases h
    rw [List.map_cons, keys_of_toEntries hfs, key_eq_ok.1 hl]
    rfl

mutual

theorem Distinct.toValue : ∀ {n : Node} {v : Value}, n.Distinct → n.toValue = .ok v → v.Distinct
  | .null, v, _, h | .bool _, v, _, h | .integer _, v, _, h | .string _, v, _, h => by
    rw [Node.toValue] at h
    cases h
    trivial
  | .real s, v, _, h => by
    rw [Node.toValue] at h
    split at h <;> cases h
    trivial
  | .array ns, v, hn, h => by
    rw [Node.toValue] at h
    obtain ⟨vs, hvs, h⟩ := Except.bind_eq_ok.1 h
    cases h
    exact distinctList_toValues hn hvs
  | .hash es, v, hn, h => by
    rw [Node.toValue] at h
    obtain ⟨fs, hfs, h⟩ := Except.bind_eq_ok.1 h
    cases h
    have hk := hn.1
    rw [keys_of_toEntries hfs] at hk
    exact ⟨List.Nodup.of_map _ hk, distinctEntries_toEntries hn.2 hfs⟩
  | .alias _, v, _, h | .bad, v, _, h => by
    rw [Node.toValue] at h
    cases h

theorem distinctList_toValues : ∀ {ns : List Node} {vs : List Value}, DistinctList ns →
    toValues ns = .ok vs → Value.DistinctList vs
  | [], vs, _, h => by
    rw [toValues] at h
    cases h
    trivial
  | n :: ns, vs, hn, h => by
    rw [toValues] at h
    obtain ⟨v, hv, h⟩ := Except.bind_eq_ok.1 h
    obtain ⟨vs, hvs, h⟩ := Except.bind_eq_ok.1 h
    cases h
    exact ⟨hn.1.toValue hv, distinctList_toValues hn.2 hvs⟩

theorem distinctEntries_toEntries : ∀ {es : List (Node × Node)} {fs : Entries Value},
    DistinctEntries es → toEntries es = .ok fs → Value.DistinctEntries fs
  | [], fs, _, h => by
    rw [toEntries] at h
    cases h
    trivial
  | (k, n) :: es, fs, hn, h => by
    rw [toEntries] at h
    obtain ⟨l, -, h⟩ := Except.bind_eq_ok.1 h
    obtain ⟨v, hv, h⟩ := Except.bind_eq_ok.1 h
    obtain ⟨fs, hfs, h⟩ := Except.bind_eq_ok.1 h
    cases h
    exact ⟨hn.1.toValue hv, distinctEntries_toEntries hn.2 hfs⟩

end

end Node

end Recipe.Yaml
