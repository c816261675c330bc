import Recipe.Command.Report

namespace Recipe.Command

def readError : IO.Error → ReadError
  | .noFileOrDirectory .. => .missing
  | .inappropriateType _ code _ =>
    if code = 20 then .notDirectory else .directory
  | e => .other (toString e)

def readFile (file : String) : IO (Except ReadError String) := do
  try
    match String.fromUTF8? (← IO.FS.readBinFile file) with
    | some text => return .ok text
    | none => return .error .encoding
  catch e => return .error (readError e)

def usage : String :=
  "usage: craft-grammar eval FILE --host-arch ARCH [OPTION...]\n       craft-grammar check FILE [OPTION...]\n"

end Recipe.Command

def main (args : List String) : IO UInt32 := do
  match Recipe.Command.Request.read args with
  | none =>
    IO.eprint Recipe.Command.usage
    return 2
  | some r =>
    let content ← match r.file? with
      | some file => Recipe.Command.readFile file
      | none => pure (.error .missing)
    let o := r.answer content
    IO.print o.output
    IO.eprint o.errors
    return UInt32.ofNat o.exit
