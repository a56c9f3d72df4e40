import BytecodeLint.Guideline.Basic

/-!
# Prefer virtual over interface calls

Every call through an interface is reported.
-/

namespace BytecodeLint.Guideline.PreferVirtual

def message? (c : ClassDecl) (m : MethodDecl) (i : Instruction) : Option String :=
  match i.operation with
  | .invoke .interface target =>
    some ("Interface call " ++ target.owner ++ "." ++ target.name ++ target.descriptor ++ " in " ++
      c.location m ++ "; declare the receiver with its concrete type")
  | _ => none

def findings (c : ClassDecl) : List Finding := c.findings (message? c)

def guideline : Guideline where
  id := "PREFER_VIRTUAL_OVER_INTERFACE"
  title := "Prefer Virtual Over Interface"
  description :=
    "Calling through an interface reference is slower than a virtual call on the concrete type!"
  check _ c := .ok (findings c)

end BytecodeLint.Guideline.PreferVirtual
