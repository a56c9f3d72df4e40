import BytecodeLint.Guideline.Basic

/-!
# Avoid floating point arithmetic

Every addition, subtraction, multiplication, division, remainder and negation of floats or doubles
is reported, by opcode.
-/

namespace BytecodeLint.Guideline.AvoidFloat

def mnemonic? (opcode : UInt8) : Option String :=
  match opcode.toNat with
  | 0x62 => some "fadd"
  | 0x63 => some "dadd"
  | 0x66 => some "fsub"
  | 0x67 => some "dsub"
  | 0x6a => some "fmul"
  | 0x6b => some "dmul"
  | 0x6e => some "fdiv"
  | 0x6f => some "ddiv"
  | 0x72 => some "frem"
  | 0x73 => some "drem"
  | 0x76 => some "fneg"
  | 0x77 => some "dneg"
  | _ => none

def message? (c : ClassDecl) (m : MethodDecl) (i : Instruction) : Option String :=
  (mnemonic? i.opcode).map fun name => "Floating point " ++ name ++ " in " ++ c.location m

def findings (c : ClassDecl) : List Finding := c.findings (message? c)

def guideline : Guideline where
  id := "AVOID_FLOAT"
  title := "Avoid Float"
  description :=
    "Floating point arithmetic is slow on devices without an FPU, " ++
      "use int arithmetic where possible!"
  check _ c := .ok (findings c)

end BytecodeLint.Guideline.AvoidFloat
