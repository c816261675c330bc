import Recipe.Json.Lexeme

/-! JSON text read as a value. Tokens are taken one at a time against a stack of the containers that are
still open; a mapping's entries come out sorted by key, and of two entries with one key the later
counts. -/

namespace Recipe.Json

inductive Frame
  | array : List Value → Frame
  | object : Entries Value → String → Frame

inductive Want
  | value
  | item : List Value → Want
  | key : Entries Value → Want
  | colon : Entries Value → String → Want
  | after : Value → Want

structure State where
  stack : List Frame
  want : Want

def maxDepth : Nat := 127

def Token.scalar? : Token → Option Value
  | .null => some .unset
  | .bool b => some (.bool b)
  | .integer i => some (.integer i)
  | .float x => some (.float x)
  | .string s => some (.string s)
  | _ => none

namespace State

def value (stack : List Frame) (l : Lexeme) : Except Error State := do
  let t ← l.token
  match t.scalar?, t with
  | some v, _ => .ok ⟨stack, .after v⟩
  | none, .openArray =>
    if maxDepth ≤ stack.length then .error ⟨.depth, l.start, 1⟩ else .ok ⟨stack, .item []⟩
  | none, .openObject =>
    if maxDepth ≤ stack.length then .error ⟨.depth, l.start, 1⟩ else .ok ⟨stack, .key []⟩
  | none, _ => .error ⟨.noValue, l.start, 1⟩

def step (s : State) (l : Lexeme) : Except Error State :=
  match s.want with
  | .value => value s.stack l
  | .item vs =>
    match l.token with
    | .ok .closeArray =>
      if vs = [] then .ok ⟨s.stack, .after (.sequence [])⟩ else .error ⟨.trailingComma, l.start, 1⟩
    | _ => value (.array vs :: s.stack) l
  | .key es =>
    match l.token with
    | .ok .closeObject =>
      if es = [] then .ok ⟨s.stack, .after (.mapping [])⟩ else .error ⟨.trailingComma, l.start, 1⟩
    | .ok (.string k) => .ok ⟨s.stack, .colon es k⟩
    | .error e => if l.start.head? = some '"' then .error e else .error ⟨.key, l.start, 1⟩
    | .ok _ => .error ⟨.key, l.start, 1⟩
  | .colon es k =>
    match l.token with
    | .ok .colon => .ok ⟨.object es k :: s.stack, .value⟩
    | _ => .error ⟨.noColon, l.start, 1⟩
  | .after v =>
    match s.stack with
    | [] => .error ⟨.trailingText, l.start, 1⟩
    | .array vs :: stack =>
      match l.token with
      | .ok .comma => .ok ⟨stack, .item (v :: vs)⟩
      | .ok .closeArray => .ok ⟨stack, .after (.sequence (v :: vs).reverse)⟩
      | _ => .error ⟨.noArrayEnd, l.start, 1⟩
    | .object es k :: stack =>
      match l.token with
      | .ok .comma => .ok ⟨stack, .key (Entries.insertSorted k v es)⟩
      | .ok .closeObject => .ok ⟨stack, .after (.mapping (Entries.insertSorted k v es))⟩
      | _ => .error ⟨.noObjectEnd, l.start, 1⟩

def finish (s : State) : Except Error Value :=
  match s.want, s.stack with
  | .after v, [] => .ok v
  | .after _, .array _ :: _ | .item [], _ => .error ⟨.endInArray, [], 0⟩
  | .after _, .object .. :: _ | .key [], _ | .colon .., _ => .error ⟨.endInObject, [], 0⟩
  | .value, _ | .item (_ :: _), _ | .key (_ :: _), _ => .error ⟨.endInValue, [], 0⟩

def run : State → List Lexeme → Except Error Value
  | s, [] => s.finish
  | s, l :: ls => do (← s.step l).run ls

end State

def readChars (cs : List Char) : Except Error Value := State.run ⟨[], .value⟩ (lexemes cs)

def read (text : String) : Except String Value :=
  (readChars text.toList).mapError (Error.message text.toList)

end Recipe.Json
