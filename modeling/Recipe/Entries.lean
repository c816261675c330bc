/-! Association lists in written order, keyed by strings. Writing to a key that is present keeps its
position, and of two lists joined by `union` the first one wins. -/

universe u

namespace Recipe

abbrev Entries (α : Type u) := List (String × α)

namespace Entries

variable {α : Type u}

def keys (es : Entries α) : List String := es.map Prod.fst

def get? (es : Entries α) (k : String) : Option α := es.lookup k

def insert (k : String) (v : α) : Entries α → Entries α
  | [] => [(k, v)]
  | (l, w) :: es => if l = k then (l, v) :: es else (l, w) :: insert k v es

def ofList (es : List (String × α)) : Entries α :=
  es.foldl (fun acc e => insert e.1 e.2 acc) []

def union (a b : Entries α) : Entries α := a ++ b.filter fun e => e.1 ∉ a.keys

def insertSorted (k : String) (v : α) : Entries α → Entries α
  | [] => [(k, v)]
  | (l, w) :: es =>
    if k < l then (k, v) :: (l, w) :: es
    else if l = k then (l, v) :: es
    else (l, w) :: insertSorted k v es

@[simp] theorem keys_nil : keys ([] : Entries α) = [] := rfl

@[simp] theorem keys_cons (e : String × α) (es : Entries α) : keys (e :: es) = e.1 :: keys es := rfl

@[simp] theorem keys_append (a b : Entries α) : keys (a ++ b) = keys a ++ keys b := List.map_append

@[simp] theorem nil_union (es : Entries α) : union [] es = es := by
  simp [union]

end Entries

end Recipe
