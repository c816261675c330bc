import Recipe.Proofs.Except
import Recipe.Proofs.Yaml.Distinct
import Recipe.Yaml.Load

/-! No mapping that is read from a YAML text has a key twice. A key that comes again does not stop the
reading, so what is shown of each step is that it holds unless a key has come again by then. -/

namespace Recipe.Yaml

def Source.Distinct (s : Source) : Prop := ∀ a ∈ s.anchors, ∀ n ∈ a.2, n.Distinct

structure Pairs.Distinct (p : Pairs) : Prop where
  keys : (p.entries.map Prod.fst).Nodup
  values : Node.DistinctEntries p.entries

theorem Pairs.Distinct.hash {p : Pairs} (h : p.Distinct) : (Node.hash p.entries).Distinct :=
  ⟨h.keys, h.values⟩

theorem Pairs.distinct_empty : Pairs.Distinct {} := ⟨.nil, trivial⟩

namespace Build

variable {C D : Prop} {α β : Type} {P : α → Prop} {Q : β → Prop} {x : Build α} {f : α → Build β}

/-- Unless a key has come again, none had before, and what is built is as it should be. `C` is what is
assumed of the parts that are given. -/
def Keeps (C : Prop) (P : α → Prop) (x : Build α) : Prop :=
  ∀ s a s', x s = .ok (a, s') → s'.repeated = none →
    s.repeated = none ∧ (s.Distinct → C → s'.Distinct ∧ P a)

theorem Keeps.bind (hx : Keeps C P x) (hf : ∀ a, Keeps (C ∧ P a) Q (f a)) : Keeps C Q (x >>= f) := by
  intro s b s'' h hr
  obtain ⟨a, s', hs, h⟩ := StateT.bind_eq_ok.1 h
  obtain ⟨hr', hd'⟩ := hf a s' b s'' h hr
  obtain ⟨hr, hd⟩ := hx s a s' hs hr'
  refine ⟨hr, fun hs hC => ?_⟩
  obtain ⟨hs', ha⟩ := hd hs hC
  exact hd' hs' ⟨hC, ha⟩

theorem Keeps.given (hx : Keeps D P x) (h : C → D) : Keeps C P x := by
  intro s a s' hs hr
  obtain ⟨hr, hd⟩ := hx s a s' hs hr
  exact ⟨hr, fun hs hC => hd hs (h hC)⟩

theorem keeps_pure {a : α} (h : C → P a) : Keeps C P (pure a) := by
  intro s b s' hs hr
  cases hs
  exact ⟨hr, fun hs hC => ⟨hs, h hC⟩⟩

theorem keeps_fail {p : Problem} {m : Mark} : Keeps C P (fail p m) := by
  intro s a s' h
  cases h

theorem keeps_stuck : Keeps C P (do throw (← get).fault) := by
  intro s a s' h
  cases h

def Quiet (x : Build α) : Prop := Keeps True (fun _ => True) x

theorem Quiet.bind (hx : Quiet x) (hf : ∀ a, Keeps C Q (f a)) : Keeps C Q (x >>= f) := by
  have hx : Keeps C (fun _ => True) x := hx.given fun _ => trivial
  exact hx.bind fun a => (hf a).given And.left

theorem quiet_modify {u : Source → Source} (hr : ∀ s, (u s).repeated = s.repeated)
    (hd : ∀ s, s.Distinct → (u s).Distinct) : Quiet (modify u) := by
  intro s a s' h hn
  cases h
  exact ⟨hr s ▸ hn, fun hs _ => ⟨hd s hs, trivial⟩⟩

theorem quiet_get : Quiet get := by
  intro s a s' h hr
  cases h
  exact ⟨hr, fun hs _ => ⟨hs, trivial⟩⟩

theorem quiet_peek : Quiet peek := by
  apply quiet_get.bind
  intro s
  split
  · exact keeps_pure id
  · intro s a s' h
    cases h

theorem quiet_skip : Quiet skip := quiet_modify (fun _ => rfl) fun _ => id

theorem quiet_handles (hs : List (String × String)) : Quiet (modify fun s => { s with handles := hs }) :=
  quiet_modify (fun _ => rfl) fun _ => id

theorem quiet_register {name : String} : Quiet (register name) := by
  intro s a s' h hr
  cases h
  refine ⟨hr, fun hs _ => ⟨?_, trivial⟩⟩
  intro a ha n hn
  rcases Array.mem_push.1 ha with ha | rfl
  · exact hs a ha n hn
  · cases hn

theorem keeps_complete {id : Option Nat} {n : Node} (h : C → n.Distinct) :
    Keeps C (fun _ => True) (complete id n) := by
  cases id with
  | none => exact keeps_pure fun _ => trivial
  | some i =>
    intro s a s' hs hr
    cases hs
    refine ⟨hr, fun hs hC => ⟨?_, trivial⟩⟩
    intro a ha m hm
    obtain ⟨j, hj, rfl⟩ := Array.mem_iff_getElem.1 ha
    rw [Array.size_modify] at hj
    rw [Array.getElem_modify] at hm
    split at hm
    · cases hm
      exact h hC
    · exact hs _ (Array.getElem_mem hj) m hm

theorem keeps_resolve {name : String} {m : Mark} : Keeps C Node.Distinct (resolve name m) := by
  intro s n s' h hr
  obtain ⟨_, _, hg, h⟩ := StateT.bind_eq_ok.1 h
  cases hg
  cases hl : s.anchors.toList.reverse.lookup name with
  | none =>
    rw [hl] at h
    cases h
  | some n? =>
    rw [hl] at h
    cases h
    refine ⟨hr, fun hs _ => ⟨hs, ?_⟩⟩
    obtain ⟨as, bs, he, -⟩ := List.lookup_eq_some_iff.1 hl
    have hm : (name, n?) ∈ s.anchors := by
      rw [← Array.mem_toList_iff, ← List.mem_reverse, he]
      simp
    cases n? with
    | none => trivial
    | some n => exact hs _ hm n rfl

theorem quiet_typing {handle suffix : String} {m : Mark} : Quiet (typing handle suffix m) := by
  have quiet_pure {α β : Type} (a : α) (f : α → β) : Quiet (pure a >>= fun a => pure (f a)) :=
    Quiet.bind (keeps_pure fun _ => trivial) fun _ => keeps_pure fun _ => trivial
  refine quiet_get.bind fun s => ?_
  dsimp only
  split
  · exact quiet_pure _ _
  · split
    · exact quiet_pure _ _
    · split
      · exact Quiet.bind keeps_fail fun _ => keeps_pure fun _ => trivial
      · exact quiet_pure _ _

theorem quiet_properties : Quiet Properties.read := by
  refine quiet_peek.bind fun t => ?_
  split
  · refine quiet_skip.bind fun _ => quiet_register.bind fun id => quiet_peek.bind fun u => ?_
    split
    · exact quiet_skip.bind fun _ => quiet_typing.bind fun _ => keeps_pure fun _ => trivial
    · exact keeps_pure fun _ => trivial
  · refine quiet_skip.bind fun _ => quiet_typing.bind fun _ => quiet_peek.bind fun u => ?_
    split
    · exact quiet_skip.bind fun _ => quiet_register.bind fun _ => keeps_pure fun _ => trivial
    · exact keeps_pure fun _ => trivial
  · exact keeps_pure fun _ => trivial

theorem keeps_add {p : Pairs} {n : Node} {m : Mark} (hp : C → p.Distinct) (hn : C → n.Distinct) :
    Keeps C Pairs.Distinct (p.add n m) := by
  rw [Pairs.add]
  split
  · exact keeps_pure fun hC => ⟨(hp hC).keys, (hp hC).values⟩
  · rename_i k hk
    dsimp only
    split
    · intro s q s' h hr
      obtain ⟨_, _, hm, h⟩ := StateT.bind_eq_ok.1 h
      cases hm
      cases h
      rw [Option.or_eq_none_iff] at hr
      cases hr.2
    · rename_i hk
      refine keeps_pure fun hC => ⟨?_, Node.distinctEntries_concat.2 ⟨(hp hC).values, hn hC⟩⟩
      have hk : k ∉ p.entries.map Prod.fst := by simpa using hk
      rw [List.map_append, List.map_singleton, List.nodup_append]
      refine ⟨(hp hC).keys, List.pairwise_singleton .., ?_⟩
      intro l hl l' hl'
      rw [List.mem_singleton.1 hl']
      rintro rfl
      exact hk hl

mutual

theorem keeps_node {C : Prop} (block dashes : Bool) :
    ∀ n : Nat, Keeps C (fun e => e.1.Distinct) (node block dashes n)
  | 0 => keeps_stuck
  | n + 1 => by
    rw [node]
    refine quiet_peek.bind fun t => ?_
    split
    · exact quiet_skip.bind fun _ => keeps_resolve.bind fun m => keeps_pure And.right
    · refine quiet_properties.bind fun p => (keeps_content block dashes p n).bind fun e => ?_
      exact (keeps_complete And.right).bind fun _ => keeps_pure fun h => h.1.2
termination_by structural n => n

theorem keeps_content {C : Prop} (block dashes : Bool) (p : Properties) :
    ∀ n : Nat, Keeps C (fun e => e.1.Distinct) (content block dashes p n)
  | 0 => keeps_stuck
  | n + 1 => by
    rw [content]
    refine quiet_peek.bind fun t => ?_
    split
    · exact keeps_dashedItems (fun _ => Node.distinctList_nil) n
    · exact quiet_skip.bind fun _ => keeps_pure fun _ => Node.distinct_ofScalar ..
    · exact quiet_skip.bind fun _ => keeps_flowItems true (fun _ => Node.distinctList_nil) n
    · exact quiet_skip.bind fun _ => keeps_flowPairs true (fun _ => Pairs.distinct_empty) n
    · exact quiet_skip.bind fun _ => keeps_blockItems (fun _ => Node.distinctList_nil) n
    · exact quiet_skip.bind fun _ => keeps_blockPairs (fun _ => Pairs.distinct_empty) n
    · split
      · exact keeps_pure fun _ => Node.distinct_ofScalar ..
      · exact keeps_fail
termination_by structural n => n

theorem keeps_blockItems {C : Prop} {done : List Node} (hd : C → Node.DistinctList done) :
    ∀ n : Nat, Keeps C (fun e => e.1.Distinct) (blockItems done n)
  | 0 => keeps_stuck
  | n + 1 => by
    rw [blockItems]
    refine quiet_peek.bind fun t => ?_
    split
    · exact quiet_skip.bind fun _ => keeps_pure hd
    · refine quiet_skip.bind fun _ => quiet_peek.bind fun u => ?_
      have hrest (e : Ended) : Keeps (C ∧ e.1.Distinct) (fun e => e.1.Distinct)
          (blockItems (done ++ [e.1]) n) :=
        keeps_blockItems (fun h => Node.distinctList_concat.2 ⟨hd h.1, h.2⟩) n
      dsimp only
      split
      · exact (keeps_pure fun _ => trivial).bind hrest
      · exact (keeps_pure fun _ => trivial).bind hrest
      · exact (keeps_node true false n).bind hrest
    · exact keeps_fail
termination_by structural n => n

theorem keeps_dashedItems {C : Prop} {done : List Node} (hd : C → Node.DistinctList done) :
    ∀ n : Nat, Keeps C (fun e => e.1.Distinct) (dashedItems done n)
  | 0 => keeps_stuck
  | n + 1 => by
    rw [dashedItems]
    refine quiet_peek.bind fun t => ?_
    split
    · refine quiet_skip.bind fun _ => quiet_peek.bind fun u => ?_
      have hrest (e : Ended) : Keeps (C ∧ e.1.Distinct) (fun e => e.1.Distinct)
          (dashedItems (done ++ [e.1]) n) :=
        keeps_dashedItems (fun h => Node.distinctList_concat.2 ⟨hd h.1, h.2⟩) n
      dsimp only
      split
      iterate 4 exact (keeps_pure fun _ => trivial).bind hrest
      exact (keeps_node true false n).bind hrest
    · exact keeps_pure hd
termination_by structural n => n

theorem keeps_blockPairs {C : Prop} {p : Pairs} (hp : C → p.Distinct) :
    ∀ n : Nat, Keeps C (fun e => e.1.Distinct) (blockPairs p n)
  | 0 => keeps_stuck
  | n + 1 => by
    rw [blockPairs]
    refine quiet_peek.bind fun t => ?_
    split
    · exact quiet_skip.bind fun _ => keeps_pure fun h => (hp h).hash
    · refine quiet_skip.bind fun _ => (keeps_blockPart hp n).bind fun q => ?_
      exact (keeps_blockValue And.right n).bind fun r => keeps_blockPairs And.right n
    · refine (keeps_add hp fun _ => Node.distinct_null).bind fun q => ?_
      exact (keeps_blockValue And.right n).bind fun r => keeps_blockPairs And.right n
    · exact keeps_fail
termination_by structural n => n

theorem keeps_blockPart {C : Prop} {p : Pairs} (hp : C → p.Distinct) :
    ∀ n : Nat, Keeps C Pairs.Distinct (blockPart p n)
  | 0 => keeps_stuck
  | n + 1 => by
    rw [blockPart]
    refine quiet_peek.bind fun t => ?_
    split
    · exact keeps_add hp fun _ => Node.distinct_null
    · exact (keeps_node true true n).bind fun e => keeps_add (fun h => hp h.1) And.right
termination_by structural n => n

theorem keeps_blockValue {C : Prop} {p : Pairs} (hp : C → p.Distinct) :
    ∀ n : Nat, Keeps C Pairs.Distinct (blockValue p n)
  | 0 => keeps_stuck
  | n + 1 => by
    rw [blockValue]
    refine quiet_peek.bind fun t => ?_
    split
    · exact quiet_skip.bind fun _ => keeps_blockPart hp n
    · exact keeps_add hp fun _ => Node.distinct_null
termination_by structural n => n

theorem keeps_flowItems {C : Prop} (first : Bool) {done : List Node} (hd : C → Node.DistinctList done) :
    ∀ n : Nat, Keeps C (fun e => e.1.Distinct) (flowItems first done n)
  | 0 => keeps_stuck
  | n + 1 => by
    rw [flowItems]
    refine quiet_peek.bind fun t => ?_
    split
    · exact quiet_skip.bind fun _ => keeps_pure hd
    · exact quiet_skip.bind fun _ => keeps_flowItem hd n
    · exact keeps_fail
    · exact keeps_flowItem hd n
termination_by structural n => n

theorem keeps_flowItem {C : Prop} {done : List Node} (hd : C → Node.DistinctList done) :
    ∀ n : Nat, Keeps C (fun e => e.1.Distinct) (flowItem done n)
  | 0 => keeps_stuck
  | n + 1 => by
    rw [flowItem]
    refine quiet_peek.bind fun t => ?_
    split
    · exact quiet_skip.bind fun _ => keeps_pure hd
    · refine quiet_skip.bind fun _ => (keeps_flowPairKey n).bind fun p => ?_
      refine (keeps_flowValue .flowSequenceEnd And.right n).bind fun q => ?_
      exact keeps_flowItems false (fun h => Node.distinctList_concat.2 ⟨hd h.1.1, h.2.hash⟩) n
    · refine (keeps_node false false n).bind fun e => ?_
      exact keeps_flowItems false (fun h => Node.distinctList_concat.2 ⟨hd h.1, h.2⟩) n
termination_by structural n => n

theorem keeps_flowPairKey {C : Prop} : ∀ n : Nat, Keeps C Pairs.Distinct (flowPairKey n)
  | 0 => keeps_stuck
  | n + 1 => by
    rw [flowPairKey]
    refine quiet_peek.bind fun t => ?_
    have hp {D : Prop} (_ : D) : Pairs.Distinct {} := Pairs.distinct_empty
    split
    iterate 3 exact quiet_skip.bind fun _ => keeps_add hp fun _ => Node.distinct_null
    exact (keeps_node false false n).bind fun e => keeps_add hp And.right
termination_by structural n => n

theorem keeps_flowPairs {C : Prop} (first : Bool) {p : Pairs} (hp : C → p.Distinct) :
    ∀ n : Nat, Keeps C (fun e => e.1.Distinct) (flowPairs first p n)
  | 0 => keeps_stuck
  | n + 1 => by
    rw [flowPairs]
    refine quiet_peek.bind fun t => ?_
    split
    · exact quiet_skip.bind fun _ => keeps_pure fun h => (hp h).hash
    · exact quiet_skip.bind fun _ => keeps_flowPair t.mark hp n
    · exact keeps_fail
    · exact keeps_flowPair t.mark hp n
termination_by structural n => n

theorem keeps_flowPair {C : Prop} (start : Mark) {p : Pairs} (hp : C → p.Distinct) :
    ∀ n : Nat, Keeps C (fun e => e.1.Distinct) (flowPair start p n)
  | 0 => keeps_stuck
  | n + 1 => by
    rw [flowPair]
    -- whatever the key is, the value and the pairs that are left come after it
    have hrest {D : Prop} (q : Pairs) : Keeps (D ∧ q.Distinct) (fun e => e.1.Distinct)
        (flowValue .flowMappingEnd q n >>= fun r => flowPairs false r n) :=
      (keeps_flowValue .flowMappingEnd And.right n).bind fun r => keeps_flowPairs false And.right n
    refine quiet_peek.bind fun t => ?_
    split
    · exact quiet_skip.bind fun _ => keeps_pure fun h => (hp h).hash
    · refine quiet_skip.bind fun _ => quiet_peek.bind fun u => ?_
      dsimp only
      split
      iterate 3 exact (keeps_add hp fun _ => Node.distinct_null).bind hrest
      exact (keeps_node false false n).bind fun e => (keeps_add (fun h => hp h.1) And.right).bind hrest
    · exact (keeps_add hp fun _ => Node.distinct_null).bind hrest
    · refine (keeps_node false false n).bind fun e => ?_
      refine (keeps_add (fun h => hp h.1) And.right).bind fun q => quiet_peek.bind fun u => ?_
      refine (keeps_add And.right fun _ => Node.distinct_null).bind fun r => ?_
      exact keeps_flowPairs false And.right n
termination_by structural n => n

theorem keeps_flowValue {C : Prop} (close : Token) {p : Pairs} (hp : C → p.Distinct) :
    ∀ n : Nat, Keeps C Pairs.Distinct (flowValue close p n)
  | 0 => keeps_stuck
  | n + 1 => by
    rw [flowValue]
    refine quiet_peek.bind fun t => ?_
    split
    · refine quiet_skip.bind fun _ => quiet_peek.bind fun u => ?_
      split
      · exact keeps_add hp fun _ => Node.distinct_null
      · exact (keeps_node false false n).bind fun e => keeps_add (fun h => hp h.1) And.right
    · exact keeps_add hp fun _ => Node.distinct_null
termination_by structural n => n

end

theorem keeps_tree : Keeps C Node.Distinct tree :=
  quiet_get.bind fun _ => (keeps_node true false _).bind fun _ => keeps_pure And.right

theorem quiet_directives (version : Bool) : ∀ n : Nat, Quiet (directives version n)
  | 0 => by
    rw [directives]
    exact keeps_pure id
  | n + 1 => by
    rw [directives]
    refine quiet_peek.bind fun t => ?_
    split
    · have hrest : Quiet (do
          modify fun s => { s with handles := [] }
          skip
          directives true n) :=
        (quiet_handles []).bind fun _ => quiet_skip.bind fun _ => quiet_directives true n
      dsimp only
      split
      · exact Quiet.bind keeps_fail fun _ => hrest
      · exact hrest
    · exact (quiet_handles _).bind fun _ => quiet_skip.bind fun _ => quiet_directives version n
    · exact keeps_pure id

theorem keeps_markedDocument : Keeps C Node.Distinct markedDocument := by
  refine quiet_get.bind fun s => (quiet_directives false _).bind fun _ => quiet_peek.bind fun t => ?_
  dsimp only
  split
  · exact Quiet.bind keeps_fail fun _ => keeps_start
  · exact keeps_start
where
  keeps_start : Keeps C Node.Distinct (do
      skip
      if (← peek).token.endsDocument then return .null else tree) := by
    refine quiet_skip.bind fun _ => quiet_peek.bind fun t => ?_
    split
    · exact keeps_pure fun _ => trivial
    · exact keeps_tree

theorem quiet_endDocument : Quiet endDocument := by
  refine quiet_peek.bind fun t => (quiet_handles []).bind fun _ => ?_
  split
  · exact quiet_skip.bind fun _ => keeps_pure id
  · dsimp only
    split
    · exact Quiet.bind keeps_fail fun _ => keeps_pure id
    · exact keeps_pure id

theorem keeps_documents {C : Prop} (unmarked : Bool) :
    ∀ n : Nat, Keeps C Node.DistinctList (documents unmarked n)
  | 0 => by
    rw [documents]
    exact keeps_pure fun _ => trivial
  | n + 1 => by
    rw [documents]
    refine Quiet.bind (quiet_modify ?_ ?_) fun _ => quiet_peek.bind fun t => ?_
    · intro s
      rfl
    · intro s _ a ha
      simp at ha
    have hrest (m : Node) : Keeps (C ∧ m.Distinct) Node.DistinctList (do
        let unmarked ← endDocument
        return m :: (← documents unmarked n)) :=
      quiet_endDocument.bind fun _ => (keeps_documents _ n).bind fun _ => keeps_pure fun h => ⟨h.1.2, h.2⟩
    split
    · exact keeps_pure fun _ => trivial
    · dsimp only
      split
      · exact keeps_tree.bind hrest
      · exact keeps_markedDocument.bind hrest

end Build

theorem distinctList_of_documents {text : String} {ns : List Node} (h : documents text = .ok ns) :
    Node.DistinctList ns := by
  obtain ⟨⟨ms, s⟩, hs, h⟩ := Except.bind_eq_ok.1 h
  dsimp only at h
  split at h
  · cases h
  · rename_i hr
    cases h
    refine ((Build.keeps_documents true _ _ _ _ hs hr).2 ?_ trivial).2
    intro a ha
    simp at ha

theorem distinct_of_load {text : String} {v : Value} (h : load text = .ok v) : v.Distinct := by
  obtain ⟨ns, hns, h⟩ := Except.bind_eq_ok.1 h
  obtain ⟨vs, hvs, rfl⟩ := Except.map_eq_ok.1 (Except.mapError_eq_ok.1 h)
  have hd := Node.distinctList_toValues (distinctList_of_documents (Except.mapError_eq_ok.1 hns)) hvs
  cases vs with
  | nil => trivial
  | cons v vs => exact hd.1

end Recipe.Yaml
