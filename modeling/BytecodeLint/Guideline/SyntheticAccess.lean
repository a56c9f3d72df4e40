import BytecodeLint.Guideline.Basic

/-!
# Use package scope with inner classes

When an inner class touches a private member of its outer class, or the reverse, the compiler makes
a static method named `access$...`. Calls of such methods are reported. When the owner is in the
class set and declares the method itself, it has to be marked as made by the compiler.
-/

namespace BytecodeLint.Guideline.SyntheticAccess

/-- How the names of compiler-made accessors begin. -/
def accessorStart : String := "access$"

/-- Whether the call goes to a compiler-made accessor, as far as the class set can tell. -/
def isAccessor (index : ClassIndex) (target : MemberRef) : Bool :=
  match index.get? target.owner with
  | none => true
  | some owner =>
    match owner.method? target.name target.descriptor with
    | none => true
    | some callee => callee.access.isSynthetic

def message? (index : ClassIndex) (c : ClassDecl) (m : MethodDecl) (i : Instruction) :
    Option String :=
  match i.operation with
  | .invoke .static target =>
    if accessorStart.toList.isPrefixOf target.name.toList && isAccessor index target then
      some ("Synthetic accessor " ++ target.owner ++ "." ++ target.name ++ " called from " ++
        c.location m ++ "; make the accessed member package-private")
    else none
  | _ => none

def findings (index : ClassIndex) (c : ClassDecl) : List Finding := c.findings (message? index c)

def guideline : Guideline where
  id := "INNER_CLASS_PRIVATE_ACCESS"
  title := "Use Package Scope with Inner Classes"
  description :=
    "Private members shared with inner classes are reached through synthetic accessors, " ++
      "use package scope instead!"
  check index c := .ok (findings index c)

end BytecodeLint.Guideline.SyntheticAccess
