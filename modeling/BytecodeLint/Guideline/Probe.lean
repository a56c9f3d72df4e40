import BytecodeLint.Guideline.Registry

/-!
# Probes

Three guidelines that ask for nothing useful: one whose check refuses, one whose check breaks down,
and one that reports the first instruction of every method. With them the analysis can be watched
while checks go wrong. All three work method by method, so a class without methods passes them.
-/

namespace BytecodeLint.Guideline.Probe

/-- A check that goes wrong on the first method it meets. -/
def failing (fault : CheckFault) (c : ClassDecl) : Except CheckFault (List Finding) :=
  if c.methods.isEmpty then .ok [] else .error fault

/-- The probe whose check refuses. -/
def refusing : Guideline where
  id := "A_FAILING"
  title := "Failing"
  description := "Always fails"
  check _ c := failing .refused c

/-- The probe whose check breaks down. -/
def breaking : Guideline where
  id := "B_PANICKING"
  title := "Panicking"
  description := "Always panics"
  check _ c := failing .brokeDown c

/-- The probe that reports the first instruction of every method. -/
def first : Guideline where
  id := "C_FIRST"
  title := "First"
  description := "Reports the first instruction"
  check _ c := .ok (c.methods.filterMap fun m => m.instructions.head?.map fun i => ⟨m, i, "first"⟩)

/-- The guidelines of the registry and the probes. -/
def find? (id : String) : Option Guideline :=
  (registry ++ [refusing, breaking, first]).find? fun g => g.id == id

end BytecodeLint.Guideline.Probe
