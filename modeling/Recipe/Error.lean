import Recipe.Clause.Head
import Recipe.Family
import Recipe.Json.Render

namespace Recipe

open Clause (Head Kind)

inductive ClauseError
  | selectors : SelectorError → ClauseError
  | spaces
  | several
  | any
  | other
  deriving DecidableEq

inductive Malformed
  | depth : Nat → Malformed
  | null
  | danglingElse
  | bareTry
  | duplicate : Head → Malformed
  | mixedKey : String → Malformed
  | clause : (key : String) → Kind → ClauseError → Malformed
  | family : (construct : String) → FamilyError → Malformed
  deriving DecidableEq

inductive GrammarError
  | malformed : Malformed → GrammarError
  | unknownSelector : String → Kind → GrammarError
  | ambiguous : (first second : Head) → (subject : String) → GrammarError
  | mismatch : (expected : String) → Value → GrammarError
  | unsatisfied : Head → GrammarError
  | unmatched : (field : Option String) → GrammarError
  deriving DecidableEq

def ClauseError.message : ClauseError → String
  | .selectors e => e.message
  | .spaces => "spaces are not allowed in the selector"
  | .several => "multiple selectors are not allowed"
  | .any => s!"'{Selectors.any}' is only valid in 'for' clauses"
  | .other => s!"'{Selectors.other}' is not allowed in compound clauses"

def FamilyError.message (construct : String) : FamilyError → String
  | .mixed =>
    "The 'for' statement can't be used with 'on' or 'to' statements. Either replace all " ++
      "'to <arch>' statements with 'for <platform>' or replace all 'for <platform>' statements " ++
      "with 'to <arch>' statements"
  | .foreign .archPair =>
    s!"'{construct}' is not allowed in the arch-pair grammar; use 'on' and 'to' instead"
  | .foreign .platform => s!"'{construct}' is not allowed in the platform grammar; use 'for' instead"

def Malformed.message : Malformed → String
  | .depth limit => s!"grammar nesting too deep (max depth: {limit})"
  | .null =>
    "expected a list entry to be a string, number, boolean, list or mapping, but got null"
  | .danglingElse => "'else' doesn't seem to correspond to an 'on' or 'try'"
  | .bareTry => "'try' must be followed by an 'else' to fall back to"
  | .duplicate h => s!"found duplicate '{h.text}' statements. These should be merged"
  | .mixedKey key => s!"'{key}' cannot be mixed with grammar clauses in one mapping"
  | .clause key k e => s!"'{key}' is not a valid '{k.words}' clause: {e.message}"
  | .family construct e => e.message construct

namespace GrammarError

def message : GrammarError → String
  | .malformed m => s!"Invalid grammar syntax: {m.message}."
  | .unknownSelector s k => s!"Unknown {k.selectorNoun}: '{s}' in '{k.words}' clause"
  | .ambiguous first second subject =>
    s!"Ambiguous selection: '{first.text}' and '{second.text}' both match " ++
      s!"{first.kind.subjectName} '{subject}'"
  | .mismatch expected v => s!"Expected {expected}, got {v.typeName} {v.render}"
  | .unsatisfied h => s!"Unable to satisfy '{h.text}', failure forced."
  | .unmatched (some field) => s!"No grammar clause matched for required field '{field}'"
  | .unmatched none => "No grammar clause matched and no default is available"

def code : GrammarError → String
  | .malformed _ => "G-1-01"
  | .unknownSelector .. => "G-1-02"
  | .ambiguous .. => "G-2-01"
  | .mismatch .. => "G-2-02"
  | .unsatisfied _ => "G-2-03"
  | .unmatched _ => "G-2-04"

def isConstruction (e : GrammarError) : Bool := e matches .malformed _ | .unknownSelector ..

def isMismatch (e : GrammarError) : Bool := e matches .mismatch ..

end GrammarError

def Value.required (field : Option String) : Value → Except GrammarError Value
  | .unset => .error (.unmatched field)
  | v => .ok v

end Recipe
