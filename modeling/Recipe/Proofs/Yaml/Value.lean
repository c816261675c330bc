import Mathlib
import Recipe.Proofs.Except
import Recipe.Yaml.Load

namespace Recipe.Yaml

/-- What stands in a document: a node as the key of an entry, or a node as such. -/
inductive Part
  | key : Node → Part
  | node : Node → Part

def Part.fault? : Part → Option Unsupported
  | .key (.string _) => none
  | .key n => some (.key n)
  | .node (.real s) => if (readReal s).isSome then none else some (.number s)
  | .node (.alias _) => some .alias
  | .node .bad => some .bad
  | .node _ => none

namespace Node

mutual

def parts : Node → List Part
  | .array ns => .node (.array ns) :: partsList ns
  | .hash es => .node (.hash es) :: partsEntries es
  | .null => [.node .null]
  | .bool b => [.node (.bool b)]
  | .integer i => [.node (.integer i)]
  | .real s => [.node (.real s)]
  | .string s => [.node (.string s)]
  | .alias i => [.node (.alias i)]
  | .bad => [.node .bad]

def partsList : List Node → List Part
  | [] => []
  | n :: ns => n.parts ++ partsList ns

def partsEntries : List (Node × Node) → List Part
  | [] => []
  | (k, n) :: es => .key k :: k.parts ++ n.parts ++ partsEntries es

end

mutual

/-- The value has the structure of the node: the same items and entries in the same order. -/
inductive Denotes : Node → Value → Prop
  | null : Denotes .null .unset
  | bool : Denotes (.bool b) (.bool b)
  | integer : Denotes (.integer i) (.integer i)
  | real : readReal s = some x → Denotes (.real s) (.float x)
  | string : Denotes (.string s) (.string s)
  | array : DenotesList ns vs → Denotes (.array ns) (.sequence vs)
  | hash : DenotesEntries es fs → Denotes (.hash es) (.mapping fs)

inductive DenotesList : List Node → List Value → Prop
  | nil : DenotesList [] []
  | cons : Denotes n v → DenotesList ns vs → DenotesList (n :: ns) (v :: vs)

inductive DenotesEntries : List (Node × Node) → Entries Value → Prop
  | nil : DenotesEntries [] []
  | cons : Denotes n v → DenotesEntries es fs → DenotesEntries ((.string k, n) :: es) ((k, v) :: fs)

end

end Node

def firstFault? (ps : List Part) : Option Unsupported := ps.findSome? Part.fault?

/-- A computation fails with the first fault of some parts, and yields what it should if there is none. -/
def Converts (ps : List Part) (P : α → Prop) (x : Except Unsupported α) : Prop :=
  match firstFault? ps with
  | some u => x = .error u
  | none => ∃ a, x = .ok a ∧ P a

section Converts

variable {α β : Type} {ps qs : List Part} {P : α → Prop} {Q : β → Prop} {x : Except Unsupported α}
  {f : α → Except Unsupported β} {a : α} {u : Unsupported}

theorem Converts.bind (hx : Converts ps P x) (hf : ∀ a, P a → Converts qs Q (f a)) :
    Converts (ps ++ qs) Q (x >>= f) := by
  rw [Converts, firstFault?] at hx ⊢
  rw [List.findSome?_append]
  cases hp : ps.findSome? Part.fault? with
  | some u =>
    rw [hp] at hx
    dsimp only at hx
    rw [hx]
    rfl
  | none =>
    rw [hp] at hx
    obtain ⟨a, rfl, ha⟩ := hx
    exact hf a ha

theorem Converts.map {g : α → β} (hx : Converts ps P x) (hg : ∀ a, P a → Q (g a)) :
    Converts ps Q (x >>= fun a => pure (g a)) := by
  have h : Converts (ps ++ []) Q (x >>= fun a => pure (g a)) := hx.bind fun a ha => ⟨g a, rfl, hg a ha⟩
  rwa [List.append_nil] at h

theorem Converts.eq_error_iff (h : Converts ps P x) : x = .error u ↔ firstFault? ps = some u := by
  rw [Converts] at h
  split at h
  · rename_i w hw
    rw [h, hw, Except.error.injEq, Option.some.injEq]
  · rename_i hn
    obtain ⟨a, rfl, -⟩ := h
    simp [hn]

theorem Converts.exists_ok_iff (h : Converts ps P x) : (∃ a, x = .ok a) ↔ firstFault? ps = none := by
  rw [Converts] at h
  split at h
  · rename_i w hw
    simp [h, hw]
  · rename_i hn
    obtain ⟨a, rfl, -⟩ := h
    simp [hn]

theorem Converts.of_ok (h : Converts ps P x) (hx : x = .ok a) : P a := by
  have hn := h.exists_ok_iff.1 ⟨a, hx⟩
  rw [Converts, hn] at h
  obtain ⟨b, hb, hp⟩ := h
  rw [hb] at hx
  cases hx
  exact hp

end Converts

namespace Node

variable {n : Node} {v : Value} {ns : List Node} {vs : List Value}

theorem key_converts (k : Node) : Converts (.key k :: k.parts) (fun s => k = .string s) k.key := by
  cases k with
  | string s => exact ⟨s, rfl, rfl⟩
  | _ => rfl

mutual

theorem toValue_converts : ∀ n : Node, Converts n.parts n.Denotes n.toValue
  | .null => ⟨_, rfl, .null⟩
  | .bool _ => ⟨_, rfl, .bool⟩
  | .integer _ => ⟨_, rfl, .integer⟩
  | .real s => by
    rw [Converts, toValue, parts, firstFault?, List.findSome?_cons, Part.fault?]
    cases hs : readReal s with
    | some x => exact ⟨_, rfl, .real hs⟩
    | none => rfl
  | .string _ => ⟨_, rfl, .string⟩
  | .array ns => by
    have h := (toValues_converts ns).map (Q := Denotes (.array ns)) fun _ => .array
    rw [toValue]
    exact h
  | .hash es => by
    have h := (toEntries_converts es).map (Q := Denotes (.hash es)) fun _ => .hash
    rw [toValue]
    exact h
  | .alias _ => rfl
  | .bad => rfl

theorem toValues_converts : ∀ ns : List Node, Converts (partsList ns) (DenotesList ns) (toValues ns)
  | [] => ⟨_, rfl, .nil⟩
  | n :: ns => by
    rw [partsList, toValues]
    apply (toValue_converts n).bind
    intro v hv
    exact (toValues_converts ns).map fun _ => .cons hv

theorem toEntries_converts :
    ∀ es : List (Node × Node), Converts (partsEntries es) (DenotesEntries es) (toEntries es)
  | [] => ⟨_, rfl, .nil⟩
  | (k, n) :: es => by
    rw [partsEntries, toEntries, List.append_assoc]
    apply (key_converts k).bind
    rintro s rfl
    apply (toValue_converts n).bind
    intro v hv
    exact (toEntries_converts es).map fun _ => .cons hv

end

mutual

theorem toValue_of_denotes : ∀ {n : Node} {v : Value}, n.Denotes v → n.toValue = .ok v
  | _, _, .null | _, _, .bool | _, _, .integer | _, _, .string => rfl
  | _, _, .real h => by rw [toValue, h]
  | _, _, .array h => by
    rw [toValue, toValues_of_denotes h]
    rfl
  | _, _, .hash h => by
    rw [toValue, toEntries_of_denotes h]
    rfl

theorem toValues_of_denotes :
    ∀ {ns : List Node} {vs : List Value}, DenotesList ns vs → toValues ns = .ok vs
  | _, _, .nil => rfl
  | _, _, .cons h hs => by
    rw [toValues, toValue_of_denotes h, toValues_of_denotes hs]
    rfl

theorem toEntries_of_denotes :
    ∀ {es : List (Node × Node)} {fs : Entries Value}, DenotesEntries es fs → toEntries es = .ok fs
  | _, _, .nil => rfl
  | _, _, .cons h hs => by
    rw [toEntries, toValue_of_denotes h, toEntries_of_denotes hs]
    rfl

end

structure Supported (n : Node) : Prop where
  number : ∀ s, .node (.real s) ∈ n.parts → (readReal s).isSome
  not_alias : ∀ i, .node (.alias i) ∉ n.parts
  not_bad : .node .bad ∉ n.parts
  key : ∀ k, .key k ∈ n.parts → ∃ s, k = .string s

theorem supported_iff : n.Supported ↔ firstFault? n.parts = none := by
  rw [firstFault?, List.findSome?_eq_none_iff]
  constructor
  · intro h p hp
    match p with
    | .key k =>
      obtain ⟨s, rfl⟩ := h.key k hp
      rfl
    | .node (.real s) => exact if_pos (h.number s hp)
    | .node (.alias i) => exact absurd hp (h.not_alias i)
    | .node .bad => exact absurd hp h.not_bad
    | .node .null | .node (.bool _) | .node (.integer _) | .node (.string _) | .node (.array _)
    | .node (.hash _) => rfl
  · intro h
    refine ⟨?_, ?_, ?_, ?_⟩
    · intro s hs
      by_contra hn
      have hf := h _ hs
      rw [Part.fault?, if_neg hn] at hf
      cases hf
    · intro i hi
      cases h _ hi
    · intro hb
      cases h _ hb
    · intro k hk
      have hf := h _ hk
      cases k with
      | string s => exact ⟨s, rfl⟩
      | _ => cases hf

theorem partsList_eq_flatMap (ns : List Node) : partsList ns = ns.flatMap parts := by
  induction ns with
  | nil => rfl
  | cons n ns ih => rw [partsList, List.flatMap_cons, ih]

theorem forall_supported_iff : (∀ n ∈ ns, n.Supported) ↔ firstFault? (partsList ns) = none := by
  simp only [supported_iff, firstFault?, partsList_eq_flatMap, List.findSome?_eq_none_iff, List.mem_flatMap]
  constructor
  · rintro h p ⟨n, hn, hp⟩
    exact h n hn p hp
  · intro h n hn p hp
    exact h p ⟨n, hn, hp⟩

theorem toValue_eq_ok : n.toValue = .ok v ↔ n.Denotes v :=
  ⟨(toValue_converts n).of_ok, toValue_of_denotes⟩

theorem toValues_eq_ok : toValues ns = .ok vs ↔ DenotesList ns vs :=
  ⟨(toValues_converts ns).of_ok, toValues_of_denotes⟩

theorem denotes_of_head? {n : Node} (h : DenotesList ns vs) (hn : ns.head? = some n) :
    n.Denotes (vs.head?.getD .unset) := by
  cases h with
  | nil => cases hn
  | cons hv _ =>
    cases hn
    exact hv

theorem firstValue_eq_ok : firstValue ns = .ok v ↔ (∀ n ∈ ns, n.Supported) ∧
    (ns = [] ∧ v = .unset ∨ ∃ n, ns.head? = some n ∧ n.Denotes v) := by
  rw [forall_supported_iff, ← (toValues_converts ns).exists_ok_iff]
  change (fun vs => vs.head?.getD Value.unset) <$> toValues ns = .ok v ↔ _
  rw [Except.map_eq_ok]
  constructor
  · rintro ⟨vs, hvs, rfl⟩
    refine ⟨⟨vs, hvs⟩, ?_⟩
    cases ns with
    | nil =>
      cases hvs
      exact .inl ⟨rfl, rfl⟩
    | cons n ns => exact .inr ⟨n, rfl, denotes_of_head? (toValues_eq_ok.1 hvs) rfl⟩
  · rintro ⟨⟨vs, hvs⟩, h⟩
    refine ⟨vs, hvs, ?_⟩
    rcases h with ⟨rfl, rfl⟩ | ⟨n, hn, hv⟩
    · cases hvs
      rfl
    · have hw := denotes_of_head? (toValues_eq_ok.1 hvs) hn
      exact Except.ok.inj ((toValue_of_denotes hw).symm.trans (toValue_of_denotes hv))

theorem firstValue_eq_error {u : Unsupported} : firstValue ns = .error u ↔ toValues ns = .error u := by
  change (fun vs => vs.head?.getD Value.unset) <$> toValues ns = .error u ↔ _
  rw [Except.map_eq_error]

end Node

structure Loaded (ns : List Node) : Prop where
  values_iff : ∀ vs, Node.toValues ns = .ok vs ↔ Node.DenotesList ns vs
  fault_iff : ∀ u, Node.toValues ns = .error u ↔ firstFault? (ns.flatMap Node.parts) = some u
  first_iff : ∀ v, Node.firstValue ns = .ok v ↔ (∀ n ∈ ns, n.Supported) ∧
    (ns = [] ∧ v = .unset ∨ ∃ n, ns.head? = some n ∧ n.Denotes v)
  first_fault_iff : ∀ u, Node.firstValue ns = .error u ↔ firstFault? (ns.flatMap Node.parts) = some u

theorem loaded (ns : List Node) : Loaded ns where
  values_iff _ := Node.toValues_eq_ok
  fault_iff _ := by rw [(Node.toValues_converts ns).eq_error_iff, Node.partsList_eq_flatMap]
  first_iff _ := Node.firstValue_eq_ok
  first_fault_iff _ := by
    rw [Node.firstValue_eq_error, (Node.toValues_converts ns).eq_error_iff, Node.partsList_eq_flatMap]

theorem load_iff {α : Type} (f : List Node → Except Unsupported α) (text : String) :
    let loads := (documents text).mapError LoadError.text >>= fun ns => (f ns).mapError .node
    (∀ a, loads = .ok a ↔ ∃ ns, documents text = .ok ns ∧ f ns = .ok a) ∧
    ∀ u, loads = .error (.node u) ↔ ∃ ns, documents text = .ok ns ∧ f ns = .error u := by
  intro loads
  constructor
  · intro a
    simp only [loads, Except.bind_eq_ok, Except.mapError_eq_ok]
  · intro u
    simp only [loads, Except.bind_eq_error, Except.mapError_eq_ok, Except.mapError_eq_error]
    simp

/-- Nodes and what is loaded of them. A node has a value, with the structure of the node, if and only if no
part of it is unsupported, and else the first such part in document order is blamed, a key before its value.
Of a text every document counts, also where only the first one is asked for. -/
theorem values_of_nodes :
    (∀ n : Node, ((∃ v, n.toValue = .ok v) ↔ n.Supported) ∧ (∀ v, n.toValue = .ok v ↔ n.Denotes v) ∧
      ∀ u, n.toValue = .error u ↔ firstFault? n.parts = some u) ∧
    (∀ ns, Loaded ns) ∧
    ∀ text,
      (∀ vs, loadAll text = .ok vs ↔ ∃ ns, documents text = .ok ns ∧ Node.toValues ns = .ok vs) ∧
      (∀ u, loadAll text = .error (.node u) ↔
        ∃ ns, documents text = .ok ns ∧ Node.toValues ns = .error u) ∧
      (∀ v, load text = .ok v ↔ ∃ ns, documents text = .ok ns ∧ Node.firstValue ns = .ok v) ∧
      ∀ u, load text = .error (.node u) ↔
        ∃ ns, documents text = .ok ns ∧ Node.firstValue ns = .error u := by
  refine ⟨?_, loaded, ?_⟩
  · intro n
    have h := n.toValue_converts
    exact ⟨h.exists_ok_iff.trans Node.supported_iff.symm, fun v => Node.toValue_eq_ok,
      fun u => h.eq_error_iff⟩
  · intro text
    obtain ⟨hall, hallError⟩ := load_iff Node.toValues text
    obtain ⟨hfirst, hfirstError⟩ := load_iff Node.firstValue text
    exact ⟨hall, hallError, hfirst, hfirstError⟩

example : (Node.hash [(.string "a", .null), (.array [.alias 0], .bad)]).toValue =
    .error (.key (.array [.alias 0])) := rfl

end Recipe.Yaml
