import Recipe.Decimal.Digits
import Recipe.Text.Printable

namespace Recipe.Yaml

inductive Node
  | null
  | bool : Bool → Node
  | integer : Int64 → Node
  | real : String → Node
  | string : String → Node
  | array : List Node → Node
  | hash : List (Node × Node) → Node
  | alias : Nat → Node
  | bad

namespace Node

mutual

def decEq : (m n : Node) → Decidable (m = n)
  | .null, .null | .bad, .bad => isTrue rfl
  | .bool a, .bool b => if h : a = b then isTrue (by rw [h]) else isFalse (by simp [h])
  | .integer a, .integer b => if h : a = b then isTrue (by rw [h]) else isFalse (by simp [h])
  | .real a, .real b => if h : a = b then isTrue (by rw [h]) else isFalse (by simp [h])
  | .string a, .string b => if h : a = b then isTrue (by rw [h]) else isFalse (by simp [h])
  | .alias a, .alias b => if h : a = b then isTrue (by rw [h]) else isFalse (by simp [h])
  | .array ms, .array ns =>
    match decEqList ms ns with
    | isTrue h => isTrue (by rw [h])
    | isFalse h => isFalse (by simp [h])
  | .hash es, .hash fs =>
    match decEqEntries es fs with
    | isTrue h => isTrue (by rw [h])
    | isFalse h => isFalse (by simp [h])
  | .null, .bool _ | .null, .integer _ | .null, .real _ | .null, .string _ | .null, .array _
  | .null, .hash _ | .null, .alias _ | .null, .bad => isFalse (by simp)
  | .bool _, .null | .bool _, .integer _ | .bool _, .real _ | .bool _, .string _ | .bool _, .array _
  | .bool _, .hash _ | .bool _, .alias _ | .bool _, .bad => isFalse (by simp)
  | .integer _, .null | .integer _, .bool _ | .integer _, .real _ | .integer _, .string _
  | .integer _, .array _ | .integer _, .hash _ | .integer _, .alias _ | .integer _, .bad =>
    isFalse (by simp)
  | .real _, .null | .real _, .bool _ | .real _, .integer _ | .real _, .string _ | .real _, .array _
  | .real _, .hash _ | .real _, .alias _ | .real _, .bad => isFalse (by simp)
  | .string _, .null | .string _, .bool _ | .string _, .integer _ | .string _, .real _
  | .string _, .array _ | .string _, .hash _ | .string _, .alias _ | .string _, .bad =>
    isFalse (by simp)
  | .array _, .null | .array _, .bool _ | .array _, .integer _ | .array _, .real _
  | .array _, .string _ | .array _, .hash _ | .array _, .alias _ | .array _, .bad => isFalse (by simp)
  | .hash _, .null | .hash _, .bool _ | .hash _, .integer _ | .hash _, .real _ | .hash _, .string _
  | .hash _, .array _ | .hash _, .alias _ | .hash _, .bad => isFalse (by simp)
  | .alias _, .null | .alias _, .bool _ | .alias _, .integer _ | .alias _, .real _
  | .alias _, .string _ | .alias _, .array _ | .alias _, .hash _ | .alias _, .bad => isFalse (by simp)
  | .bad, .null | .bad, .bool _ | .bad, .integer _ | .bad, .real _ | .bad, .string _ | .bad, .array _
  | .bad, .hash _ | .bad, .alias _ => isFalse (by simp)

def decEqList : (ms ns : List Node) → Decidable (ms = ns)
  | [], [] => isTrue rfl
  | [], _ :: _ | _ :: _, [] => isFalse (by simp)
  | m :: ms, n :: ns =>
    match decEq m n, decEqList ms ns with
    | isTrue h, isTrue hs => isTrue (by rw [h, hs])
    | isFalse h, _ => isFalse (by simp [h])
    | _, isFalse hs => isFalse (by simp [hs])

def decEqEntries : (es fs : List (Node × Node)) → Decidable (es = fs)
  | [], [] => isTrue rfl
  | [], _ :: _ | _ :: _, [] => isFalse (by simp)
  | (k, v) :: es, (l, w) :: fs =>
    match decEq k l, decEq v w, decEqEntries es fs with
    | isTrue hk, isTrue h, isTrue hs => isTrue (by rw [hk, h, hs])
    | isFalse hk, _, _ => isFalse (by simp [hk])
    | _, isFalse h, _ => isFalse (by simp [h])
    | _, _, isFalse hs => isFalse (by simp [hs])

end

instance : DecidableEq Node := decEq

def quoteChar (c : Char) : List Char :=
  if c = '"' then ['\\', '"']
  else if c = '\\' then ['\\', '\\']
  else if c = '\n' then ['\\', 'n']
  else if c = '\r' then ['\\', 'r']
  else if c = '\t' then ['\\', 't']
  else if c.toNat = 0 then ['\\', '0']
  else if Text.isPrintable c then [c]
  else '\\' :: 'u' :: '\x7b' :: Decimal.hexDigits c.toNat ++ ['\x7d']

def quote (s : String) : List Char := '"' :: s.toList.flatMap quoteChar ++ ['"']

mutual

def shown : Node → List Char
  | .null => "Null".toList
  | .bool b => (if b then "Boolean(true)" else "Boolean(false)").toList
  | .integer i => "Integer(".toList ++ Decimal.intDigits i.toInt ++ [')']
  | .real s => "Real(".toList ++ quote s ++ [')']
  | .string s => "String(".toList ++ quote s ++ [')']
  | .array ns => "Array([".toList ++ shownItems ns ++ [']', ')']
  | .hash es => "Hash(".toList ++ '\x7b' :: shownEntries es ++ ['\x7d', ')']
  | .alias n => "Alias(".toList ++ Decimal.natDigits n ++ [')']
  | .bad => "BadValue".toList

def shownItems : List Node → List Char
  | [] => []
  | [n] => n.shown
  | m :: n :: ns => m.shown ++ ',' :: ' ' :: shownItems (n :: ns)

def shownEntries : List (Node × Node) → List Char
  | [] => []
  | [(k, v)] => k.shown ++ ':' :: ' ' :: v.shown
  | (k, v) :: e :: es => k.shown ++ ':' :: ' ' :: v.shown ++ ',' :: ' ' :: shownEntries (e :: es)

end

def text (n : Node) : String := String.ofList n.shown

end Node

end Recipe.Yaml
