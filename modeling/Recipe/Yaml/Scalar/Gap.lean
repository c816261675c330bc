import Recipe.Yaml.Cursor

namespace Recipe.Yaml

structure Gap where
  blanks : List Char
  breaks : Nat

namespace Gap

def lines (n : Nat) : List Char := List.replicate n '\n'

def text : Gap → List Char
  | ⟨blanks, 0⟩ => blanks
  | ⟨_, 1⟩ => [' ']
  | ⟨_, n + 2⟩ => lines (n + 1)

/-- Reads a gap in at most `n` steps. Once `broken`, its blanks do not count, and `onTab` is asked about
a tab before the column `margin`. The break after a comment does not count either. -/
def readWithin (margin : Int) (onTab : Read Unit) (broken : Bool) (g : Gap) : Nat → Read Gap
  | 0 => return g
  | n + 1 => do
    let c ← get
    match c.rest with
    | [] => return g
    | d :: _ =>
      if isBreak d then
        Read.skip 1
        let comment := broken && !c.fresh
        readWithin margin onTab true ⟨[], if comment then g.breaks else g.breaks + 1⟩ n
      else if isSpace d then
        if broken && d == '\t' && c.mark.column < margin then
          onTab
          readWithin margin onTab broken g n
        else
          Read.skip 1
          readWithin margin onTab broken (if broken then g else ⟨g.blanks ++ [d], 0⟩) n
      else return g

def read (margin : Int) (onTab : Read Unit) (broken : Bool) : Read Gap := do
  readWithin margin onTab broken ⟨[], 0⟩ ((← get).rest.length + 1)

end Gap

end Recipe.Yaml
