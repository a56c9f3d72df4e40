import BytecodeLint.Guideline.AvoidEnums
import BytecodeLint.Guideline.AvoidFloat
import BytecodeLint.Guideline.ConstantFinal
import BytecodeLint.Guideline.InternalAccessors
import BytecodeLint.Guideline.LoopIterator
import BytecodeLint.Guideline.PreferStatic
import BytecodeLint.Guideline.PreferVirtual
import BytecodeLint.Guideline.SyntheticAccess

/-!
# The guidelines in use
-/

namespace BytecodeLint.Guideline

/-- All guidelines, by ascending id. -/
def registry : List Guideline :=
  [AvoidEnums.guideline, AvoidFloat.guideline, InternalAccessors.guideline,
    ConstantFinal.guideline, LoopIterator.guideline, SyntheticAccess.guideline,
    PreferStatic.guideline, PreferVirtual.guideline]

def find? (id : String) : Option Guideline := registry.find? fun g => g.id == id

end BytecodeLint.Guideline
