import BytecodeLint.Class.Index
import BytecodeLint.Marker

/-!
# Guidelines and findings

A guideline looks at one class at a time, knowing the whole class set, and reports findings. Each
finding points at an instruction of a method of that class.

A check can go wrong in two ways, by saying so or by breaking down; the guidelines of the registry
do neither.
-/

namespace BytecodeLint

/-- An instruction that breaks a guideline, with what to tell about it. -/
structure Finding where
  method : MethodDecl
  instruction : Instruction
  message : String
  deriving DecidableEq, Repr

/-- How a check goes wrong. -/
inductive CheckFault where
  | refused
  | brokeDown
  deriving DecidableEq, Repr

/-- A guideline: what it is called, what it asks for, and its check of one class. -/
structure Guideline where
  id : String
  title : String
  description : String
  check : ClassIndex → ClassDecl → Except CheckFault (List Finding)

namespace Finding

/-- Where the finding stands: class, method and descriptor. -/
def location (c : ClassDecl) (f : Finding) : String := c.location f.method

def offset (f : Finding) : Nat := f.instruction.offset

def line? (f : Finding) : Option Nat := f.method.line? f.offset

/-- The finding as a marker on a source file. -/
def toMarker (f : Finding) (g : Guideline) (c : ClassDecl) (resource : Resource) : Marker where
  guidelineId := g.id
  title := g.title
  description := g.description
  message := f.message
  resource := resource
  location := f.location c
  offset := f.offset
  line := f.line?

end Finding

/-- The findings in one method: the instructions for which there is something to tell. -/
def MethodDecl.findings (m : MethodDecl) (message? : Instruction → Option String) : List Finding :=
  m.instructions.filterMap fun i => (message? i).map fun text => ⟨m, i, text⟩

def ClassDecl.findings (c : ClassDecl) (message? : MethodDecl → Instruction → Option String) :
    List Finding :=
  c.methods.flatMap fun m => m.findings (message? m)

end BytecodeLint
