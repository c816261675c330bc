namespace Recipe

/-- `on`, `to` and `try` look at architectures, `for` at platforms. -/
inductive Family
  | archPair
  | platform
  deriving DecidableEq

inductive Variant
  | only : Family → Variant
  | detect
  deriving DecidableEq

inductive Guard
  | only : Family → Guard
  | detect : Option Family → Guard
  deriving DecidableEq

inductive FamilyError
  | mixed
  | foreign : Family → FamilyError
  deriving DecidableEq

def Variant.guard : Variant → Guard
  | .only f => .only f
  | .detect => .detect none

def Guard.meet (f : Family) : Guard → Except FamilyError Guard
  | .only g => if f = g then .ok (.only g) else .error (.foreign g)
  | .detect none => .ok (.detect (some f))
  | .detect (some g) => if f = g then .ok (.detect (some g)) else .error .mixed

end Recipe
