import BytecodeLint.Bytecode.Length
import BytecodeLint.ClassFile.ConstantPool

/-!
# Decoding a method body

A body is cut into instructions from its first byte to its last. Field and call instructions name a
member through the constant pool; loads of a reference from a local variable keep its index; all
other instructions keep their opcode only.
-/

namespace BytecodeLint.Bytecode

inductive DecodeFault where
  | length (fault : LengthFault)
  | overrun (offset : Nat)
  | operandOutOfBounds
  | field (fault : MemberFault)
  | method (fault : MemberFault)
  deriving DecidableEq, Repr

def DecodeFault.explain : DecodeFault → Explanation
  | .length fault => .ofMessage fault.message
  | .overrun offset => .ofMessage ("invalid bytecode length at offset " ++ toString offset)
  | .operandOutOfBounds => .ofMessage "bytecode u16 out of bounds"
  | .field fault => fault.explain.within "resolve field ref"
  | .method fault => fault.explain.within "resolve method ref"

def fieldUse? (opcode : UInt8) : Option FieldUse :=
  if opcode = 0xb2 then some .getStatic
  else if opcode = 0xb3 then some .putStatic
  else if opcode = 0xb4 then some .getField
  else if opcode = 0xb5 then some .putField
  else none

def callKind? (opcode : UInt8) : Option CallKind :=
  if opcode = 0xb6 then some .virtual
  else if opcode = 0xb7 then some .special
  else if opcode = 0xb8 then some .static
  else if opcode = 0xb9 then some .interface
  else none

/-- The opcode that loads a reference from the local variable in its operand. -/
def aload : UInt8 := 0x19

/-- The opcode that widens the operand of the next one. -/
def wide : UInt8 := 0xc4

/-- The index of the local variable that the instruction loads a reference from. -/
def loadedLocal? : Bytes → Option Nat
  | [] => none
  | opcode :: operands =>
    if opcode = aload then operands.head?.map UInt8.toNat
    else if 0x2a ≤ opcode ∧ opcode ≤ 0x2d then some (opcode.toNat - 0x2a)
    else if opcode = wide then
      match operands with
      | widened :: hi :: lo :: _ =>
        if widened = aload then some (hi.toNat * 256 + lo.toNat) else none
      | _ => none
    else none

/-- The number in the two operand bytes after an opcode. -/
def operandU16 : Bytes → Except DecodeFault Nat
  | _ :: hi :: lo :: _ => .ok (hi.toNat * 256 + lo.toNat)
  | _ => .error .operandOutOfBounds

def operation (pool : ConstantPool) (bytes : Bytes) : Except DecodeFault Operation :=
  match bytes with
  | [] => .ok .other
  | opcode :: _ =>
    match fieldUse? opcode with
    | some use => do
      let index ← operandU16 bytes
      let target ← (pool.member index).mapError .field
      .ok (.field use target)
    | none =>
      match callKind? opcode with
      | some kind => do
        let index ← operandU16 bytes
        let target ← (pool.member index).mapError .method
        .ok (.invoke kind target)
      | none =>
        match loadedLocal? bytes with
        | some index => .ok (.load index)
        | none => .ok .other

/-- Decodes the code that starts at an offset of the method, to the end of the body. -/
def decodeFrom (pool : ConstantPool) (offset : Nat) (code : Bytes) :
    Except DecodeFault (List Instruction) :=
  match code with
  | [] => .ok []
  | opcode :: rest =>
    match length offset (opcode :: rest) with
    | .error fault => .error (.length fault)
    | .ok n =>
      let bytes := (opcode :: rest).take n
      if _h : n = 0 ∨ bytes.length < n then .error (.overrun offset)
      else
        match operation pool bytes with
        | .error fault => .error fault
        | .ok op =>
          (decodeFrom pool (offset + n) ((opcode :: rest).drop n)).map fun later =>
            ⟨offset, opcode, op⟩ :: later
  termination_by code.length
  decreasing_by
    simp only [List.length_drop, List.length_cons]
    omega

def decode (pool : ConstantPool) (body : Bytes) : Except DecodeFault (List Instruction) :=
  decodeFrom pool 0 body

end BytecodeLint.Bytecode
