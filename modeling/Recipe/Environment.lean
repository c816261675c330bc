import Recipe.Value

namespace Recipe

structure Environment where
  hostArch : String
  targetArch : String
  platform : String
  deriving DecidableEq

namespace Environment

def native (arch : String) : Environment := ⟨arch, arch, arch⟩

def ofValue? : Value → Option Environment
  | .sequence [.scalar (.string h), .scalar (.string t), .scalar (.string p)] => some ⟨h, t, p⟩
  | .mapping es => do
    let h ← (Entries.get? es "host_arch").bind Value.string?
    let t ← (Entries.get? es "target_arch").bind Value.string?
    let p ← (Entries.get? es "platform").bind Value.string?
    return ⟨h, t, p⟩
  | _ => none

end Environment

end Recipe
