import BytecodeLint.Guideline.Basic

/-!
# Prefer static over virtual

An instance method that never loads `this` could be static, unless it may override an inherited
method. It is reported once, at its first instruction.
-/

namespace BytecodeLint.Guideline.PreferStatic

/-- Whether a method is one that could be declared static at all. -/
def isCandidate (m : MethodDecl) : Bool :=
  !(m.access.isStatic || m.access.isAbstract || m.access.isNative || m.access.isSynthetic ||
    m.access.isBridge || m.isConstructor || m.isStaticInitializer)

def usesThis (m : MethodDecl) : Bool := m.instructions.any fun i => i.operation == .load 0

def methodFinding? (index : ClassIndex) (c : ClassDecl) (m : MethodDecl) : Option Finding :=
  if isCandidate m then
    match m.instructions with
    | first :: _ =>
      if usesThis m || index.mayOverride c m then none
      else some ⟨m, first, c.location m ++ " does not use this; declare it static"⟩
    | [] => none
  else none

def findings (index : ClassIndex) (c : ClassDecl) : List Finding :=
  if c.access.isInterface then [] else c.methods.filterMap (methodFinding? index c)

def guideline : Guideline where
  id := "PREFER_STATIC_OVER_VIRTUAL"
  title := "Prefer Static Over Virtual"
  description :=
    "If a method does not access instance state make it static, static calls are faster!"
  check index c := .ok (findings index c)

end BytecodeLint.Guideline.PreferStatic
