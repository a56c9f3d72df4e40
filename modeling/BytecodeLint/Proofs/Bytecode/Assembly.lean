import BytecodeLint.Bytecode.Decode

/-!
# The assembler

The instruction set by mnemonic, with the operands each instruction has, and the bytes of a list of
instructions. Nothing here looks at the length table of the decoder.

* Operands of a fixed size are words of one, two or four bytes.
* A switch starts its operands at the next multiple of four behind its opcode. The bytes in between
  are part of the instruction and may be anything (`Fill`).
* A table switch has one jump for each number from `low` to `high` (`JumpTable`).
* `wide` takes the place of a short operand: loads, stores and `ret` then have an index of two bytes,
  an increment has two words of two bytes.

`assemble` lays the instructions out one after the other; `listing` says where each of them starts,
its opcode, and what it does.
-/
namespace BytecodeLint.Bytecode.Assembly

/-! ## Mnemonics -/

/-- What a local variable holds, in opcode order. -/
inductive Local where
  | int | long | float | double | reference
  deriving DecidableEq

def Local.rank : Local → Nat
  | .int => 0
  | .long => 1
  | .float => 2
  | .double => 3
  | .reference => 4

/-- What arithmetic works on, in opcode order. -/
inductive Number where
  | int | long | float | double
  deriving DecidableEq

def Number.rank : Number → Nat
  | .int => 0
  | .long => 1
  | .float => 2
  | .double => 3

/-- Instructions without operands. Families whose members differ by a number only (constants,
moves on the stack, conversions, comparisons) are counted in opcode order. -/
inductive BareOp where
  | nop
  | constNull
  | constInt (n : Fin 7)        -- -1 to 5
  | constLong (n : Fin 2)
  | constFloat (n : Fin 3)
  | constDouble (n : Fin 2)
  | load (type : Local) (slot : Fin 4)
  | loadElement (type : Fin 8)  -- the kinds of locals, then byte, char, short
  | store (type : Local) (slot : Fin 4)
  | storeElement (type : Fin 8)
  | stack (move : Fin 9)        -- pop to swap
  | arithmetic (operator : Fin 6) (type : Number)  -- add, sub, mul, div, rem, neg
  | bits (operator : Fin 6) (isLong : Bool)        -- shl, shr, ushr, and, or, xor
  | convert (n : Fin 15)
  | compare (n : Fin 5)
  | returnValue (type : Local)
  | returnVoid
  | arrayLength
  | throw
  | monitorEnter
  | monitorExit
  | breakpoint
  | reserved (n : Fin 2)
  deriving DecidableEq

def BareOp.opcode : BareOp → UInt8
  | .nop => 0x00
  | .constNull => 0x01
  | .constInt n => .ofNat (0x02 + n)
  | .constLong n => .ofNat (0x09 + n)
  | .constFloat n => .ofNat (0x0b + n)
  | .constDouble n => .ofNat (0x0e + n)
  | .load type slot => .ofNat (0x1a + 4 * type.rank + slot)
  | .loadElement type => .ofNat (0x2e + type)
  | .store type slot => .ofNat (0x3b + 4 * type.rank + slot)
  | .storeElement type => .ofNat (0x4f + type)
  | .stack move => .ofNat (0x57 + move)
  | .arithmetic operator type => .ofNat (0x60 + 4 * operator + type.rank)
  | .bits operator isLong => .ofNat (0x78 + 2 * operator + isLong.toNat)
  | .convert n => .ofNat (0x85 + n)
  | .compare n => .ofNat (0x94 + n)
  | .returnValue type => .ofNat (0xac + type.rank)
  | .returnVoid => 0xb1
  | .arrayLength => 0xbe
  | .throw => 0xbf
  | .monitorEnter => 0xc2
  | .monitorExit => 0xc3
  | .breakpoint => 0xca
  | .reserved n => .ofNat (0xfe + n)

/-- Instructions with one operand byte. -/
inductive ByteOp where
  | pushByte
  | constant
  | load (type : Local)
  | store (type : Local)
  | ret
  | newArray
  deriving DecidableEq

def ByteOp.opcode : ByteOp → UInt8
  | .pushByte => 0x10
  | .constant => 0x12
  | .load type => .ofNat (0x15 + type.rank)
  | .store type => .ofNat (0x36 + type.rank)
  | .ret => 0xa9
  | .newArray => 0xbc

/-- Instructions with a two byte operand, but for those that name a member. -/
inductive ShortOp where
  | pushShort
  | constant
  | longConstant
  | branchZero (condition : Fin 6)  -- eq, ne, lt, ge, gt, le
  | branchInt (condition : Fin 6)
  | branchReference (condition : Fin 2)
  | goto
  | jsr
  | new
  | newArray
  | checkCast
  | instanceOf
  | branchNull
  | branchNonNull
  deriving DecidableEq

def ShortOp.opcode : ShortOp → UInt8
  | .pushShort => 0x11
  | .constant => 0x13
  | .longConstant => 0x14
  | .branchZero condition => .ofNat (0x99 + condition)
  | .branchInt condition => .ofNat (0x9f + condition)
  | .branchReference condition => .ofNat (0xa5 + condition)
  | .goto => 0xa7
  | .jsr => 0xa8
  | .new => 0xbb
  | .newArray => 0xbd
  | .checkCast => 0xc0
  | .instanceOf => 0xc1
  | .branchNull => 0xc6
  | .branchNonNull => 0xc7

/-- Jumps with a four byte operand. -/
inductive FarOp where
  | goto | jsr
  deriving DecidableEq

def FarOp.opcode : FarOp → UInt8
  | .goto => 0xc8
  | .jsr => 0xc9

/-- Calls whose only operand is the member they name. -/
inductive DirectCall where
  | virtual | special | static
  deriving DecidableEq

def DirectCall.opcode : DirectCall → UInt8
  | .virtual => 0xb6
  | .special => 0xb7
  | .static => 0xb8

def DirectCall.kind : DirectCall → CallKind
  | .virtual => .virtual
  | .special => .special
  | .static => .static

def fieldOpcode : FieldUse → UInt8
  | .getStatic => 0xb2
  | .putStatic => 0xb3
  | .getField => 0xb4
  | .putField => 0xb5

/-- Instructions that `wide` gives a longer index. -/
inductive WideOp where
  | load (type : Local)
  | store (type : Local)
  | ret
  deriving DecidableEq

/-- The opcode behind `wide`: that of the short form. -/
def WideOp.opcode : WideOp → UInt8
  | .load type => (ByteOp.load type).opcode
  | .store type => (ByteOp.store type).opcode
  | .ret => ByteOp.ret.opcode

/-! ## Instructions -/

/-- The bytes between the opcode of a switch and its operands; at most three are used. -/
structure Fill where
  first : UInt8
  second : UInt8
  third : UInt8
  deriving DecidableEq

/-- The operands of a table switch: a jump for each number of a range that is not empty. -/
structure JumpTable where
  otherwise : UInt32
  low : Int32
  high : Int32
  jumps : List UInt32
  ordered : low.toInt ≤ high.toInt
  complete : (jumps.length : Int) = high.toInt - low.toInt + 1
  deriving DecidableEq

/-- An instruction with its operands. -/
inductive Instr where
  | bare (op : BareOp)
  | byte (op : ByteOp) (operand : UInt8)
  | short (op : ShortOp) (operand : UInt16)
  | far (op : FarOp) (operand : UInt32)
  | increment (slot amount : UInt8)
  | field (use : FieldUse) (index : UInt16)
  | call (op : DirectCall) (index : UInt16)
  | callInterface (index : UInt16) (count reserved : UInt8)
  | callDynamic (index reserved : UInt16)
  | multiArray (index : UInt16) (dimensions : UInt8)
  | tableSwitch (fill : Fill) (table : JumpTable)
  | lookupSwitch (fill : Fill) (otherwise : UInt32) (pairs : List (UInt32 × UInt32))
  | wide (op : WideOp) (slot : UInt16)
  | wideIncrement (slot amount : UInt16)
  deriving DecidableEq

/-- The first byte of an instruction. -/
def Instr.opcode : Instr → UInt8
  | .bare op => op.opcode
  | .byte op _ => op.opcode
  | .short op _ => op.opcode
  | .far op _ => op.opcode
  | .increment _ _ => 0x84
  | .field use _ => fieldOpcode use
  | .call op _ => op.opcode
  | .callInterface _ _ _ => 0xb9
  | .callDynamic _ _ => 0xba
  | .multiArray _ _ => 0xc5
  | .tableSwitch _ _ => 0xaa
  | .lookupSwitch _ _ _ => 0xab
  | .wide _ _ => 0xc4
  | .wideIncrement _ _ => 0xc4

/-! ## Bytes -/

def half (n : UInt16) : Bytes := Bytes.beU16 n.toNat

def word (n : UInt32) : Bytes := Bytes.beU32 n.toNat

/-- How many bytes lie between the opcode at an offset and the next multiple of four. -/
def gap (offset : Nat) : Nat := 3 - offset % 4

def Fill.bytes (fill : Fill) (offset : Nat) : Bytes :=
  [fill.first, fill.second, fill.third].take (gap offset)

/-- The operands behind the gap of a table switch. -/
def JumpTable.bytes (table : JumpTable) : Bytes :=
  word table.otherwise ++ word table.low.toUInt32 ++ word table.high.toUInt32 ++
    table.jumps.flatMap word

/-- The operands behind the gap of a look-up switch. -/
def pairsBytes (otherwise : UInt32) (pairs : List (UInt32 × UInt32)) : Bytes :=
  word otherwise ++ word (.ofNat pairs.length) ++
    pairs.flatMap fun pair => word pair.1 ++ word pair.2

/-- The bytes behind the opcode of an instruction at an offset. -/
def Instr.operands (offset : Nat) : Instr → Bytes
  | .bare _ => []
  | .byte _ operand => [operand]
  | .short _ operand => half operand
  | .far _ operand => word operand
  | .increment slot amount => [slot, amount]
  | .field _ index => half index
  | .call _ index => half index
  | .callInterface index count reserved => half index ++ [count, reserved]
  | .callDynamic index reserved => half index ++ half reserved
  | .multiArray index dimensions => half index ++ [dimensions]
  | .tableSwitch fill table => fill.bytes offset ++ table.bytes
  | .lookupSwitch fill otherwise pairs => fill.bytes offset ++ pairsBytes otherwise pairs
  | .wide op slot => op.opcode :: half slot
  | .wideIncrement slot amount => 0x84 :: (half slot ++ half amount)

/-- The bytes of an instruction at an offset. -/
def Instr.encode (offset : Nat) (i : Instr) : Bytes := i.opcode :: i.operands offset

/-- The bytes of instructions laid out one after the other, the first at an offset. -/
def assemble (offset : Nat) : List Instr → Bytes
  | [] => []
  | i :: rest => i.encode offset ++ assemble (offset + (i.encode offset).length) rest

/-! ## Meaning -/

/-- The number of the constant that names the member an instruction uses. -/
def Instr.member? : Instr → Option Nat
  | .field _ index => some index.toNat
  | .call _ index => some index.toNat
  | .callInterface index _ _ => some index.toNat
  | _ => none

/-- The local variable that an instruction loads a reference from. -/
def Instr.slot? : Instr → Option Nat
  | .bare (.load .reference slot) => some slot
  | .byte (.load .reference) slot => some slot.toNat
  | .wide (.load .reference) slot => some slot.toNat
  | _ => none

/-- A load from the given local variable, if there is one. -/
def loading : Option Nat → Operation
  | some slot => .load slot
  | none => .other

/-- What an instruction does, given the members that constants name. -/
def Instr.meaning (target : Nat → MemberRef) : Instr → Operation
  | .field use index => .field use (target index.toNat)
  | .call op index => .invoke op.kind (target index.toNat)
  | .callInterface index _ _ => .invoke .interface (target index.toNat)
  | i => loading i.slot?

/-- Where each of the assembled instructions starts, its opcode, and what it does. -/
def listing (target : Nat → MemberRef) (offset : Nat) : List Instr → List Instruction
  | [] => []
  | i :: rest =>
    ⟨offset, i.opcode, i.meaning target⟩ ::
      listing target (offset + (i.encode offset).length) rest

end BytecodeLint.Bytecode.Assembly
