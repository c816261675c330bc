namespace Recipe.Command

inductive Takes | nothing | value
  deriving DecidableEq

abbrev OptionTable := List (String × Takes)

structure Arguments where
  options : List (String × String) := []
  rest : List String := []

namespace Arguments

def isDashed (w : String) : Bool := w.startsWith "-" && w != "-"

def long? (w : String) : Option (String × Option String) :=
  match w.toList with
  | '-' :: '-' :: cs =>
    let name := String.ofList (cs.takeWhile (· ≠ '='))
    match cs.dropWhile (· ≠ '=') with
    | [] => some (name, none)
    | _ :: v => some (name, some (String.ofList v))
  | _ => none

def withOption (name value : String) (a : Arguments) : Arguments :=
  { a with options := (name, value) :: a.options }

def withRest (w : String) (a : Arguments) : Arguments := { a with rest := w :: a.rest }

/-- Words read against a table of options. A value on its own has no dash before it; after two dashes
nothing is an option. -/
def read (table : OptionTable) : List String → Option Arguments
  | [] => some {}
  | "--" :: ws => some { rest := ws }
  | w :: ws =>
    match long? w with
    | some (name, joined) =>
      match table.lookup name, joined, ws with
      | some .nothing, none, ws => (read table ws).map (withOption name "")
      | some .value, some v, ws => (read table ws).map (withOption name v)
      | some .value, none, v :: ws =>
        if isDashed v then none else (read table ws).map (withOption name v)
      | _, _, _ => none
    | none => if isDashed w then none else (read table ws).map (withRest w)

def values (a : Arguments) (name : String) : List String :=
  (a.options.filter (·.1 == name)).map Prod.snd

def value? (a : Arguments) (name : String) : Option (Option String) :=
  match a.values name with
  | [] => some none
  | [v] => some (some v)
  | _ => none

def flag? (a : Arguments) (name : String) : Option Bool := (a.value? name).map Option.isSome

def choice? (a : Arguments) (name : String) (choices : List (String × α)) : Option (Option α) := do
  match ← a.value? name with
  | none => return none
  | some v => some <$> choices.lookup v

def only? (a : Arguments) : Option String :=
  match a.rest with
  | [w] => if w = "" then none else some w
  | _ => none

end Arguments

end Recipe.Command
