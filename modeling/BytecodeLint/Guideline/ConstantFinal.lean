import BytecodeLint.Guideline.Basic

/-!
# Declare constants final

A static field that the static initializer assigns should be final. Only the first static
initializer is looked at, and enums are left alone, because theirs writes every constant. A field
that the class does not declare counts as one that is not final.
-/

namespace BytecodeLint.Guideline.ConstantFinal

/-- Whether the first field of a name is declared final. -/
def isFinalField (c : ClassDecl) (name : String) : Bool :=
  match c.field? name with
  | some f => f.access.isFinal
  | none => false

/-- What to tell about an instruction of the static initializer. -/
def message? (c : ClassDecl) (m : MethodDecl) (i : Instruction) : Option String :=
  match i.operation with
  | .field .putStatic target =>
    if isFinalField c target.name then none
    else some ("Static field " ++ c.name ++ "." ++ target.name ++ " is only assigned in " ++
      c.location m ++ "; declare it final")
  | _ => none

def findings (c : ClassDecl) : List Finding :=
  if c.access.isEnum then []
  else
    match c.staticInitializer? with
    | some m => m.findings (message? c m)
    | none => []

def guideline : Guideline where
  id := "CONSTANT_FINAL"
  title := "Declare Constants Final"
  description := "If it is a constant declare it final!"
  check _ c := .ok (findings c)

end BytecodeLint.Guideline.ConstantFinal
