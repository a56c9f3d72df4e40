import BytecodeLint.Descriptor
import BytecodeLint.Guideline.Basic

/-!
# Avoid enums

Reading an enum constant outside an enum is reported: a `getstatic` whose field has the type of an
enum of the class set.
-/

namespace BytecodeLint.Guideline.AvoidEnums

def message? (index : ClassIndex) (c : ClassDecl) (m : MethodDecl) (i : Instruction) :
    Option String :=
  match i.operation with
  | .field .getStatic target =>
    match Descriptor.objectClass? target.descriptor with
    | some name =>
      if index.isEnum name then
        some ("Enum constant " ++ target.owner ++ "." ++ target.name ++ " used in " ++
          c.location m ++ "; prefer int constants")
      else none
    | none => none
  | _ => none

def findings (index : ClassIndex) (c : ClassDecl) : List Finding :=
  if c.access.isEnum then [] else c.findings (message? index c)

def guideline : Guideline where
  id := "AVOID_ENUMS"
  title := "Avoid Enums"
  description :=
    "The use of enum is discouraged, because they increase the byte code size and decrease speed!"
  check index c := .ok (findings index c)

end BytecodeLint.Guideline.AvoidEnums
