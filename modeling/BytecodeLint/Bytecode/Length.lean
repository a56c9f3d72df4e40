import BytecodeLint.Bytes.Reader
import BytecodeLint.Failure

/-!
# Instruction lengths

The length of an instruction follows from its opcode, except for the two switches and for the
`wide` form. The operands of a switch are aligned: after the opcode come up to three padding bytes,
so that the first operand word starts at a multiple of four, counted from the start of the method.

* `tableswitch`: default, low, high, then `high - low + 1` jump words.
* `lookupswitch`: default, pair count, then that many pairs of words.
* `wide`: two operand bytes more than the short form; `wide iinc` has four operand bytes.

A length is computed from the code that starts with the opcode, and from its offset.
-/

namespace BytecodeLint.Bytecode

/-- How the length of an instruction is found. -/
inductive Shape where
  | fixed (length : Nat)
  | tableSwitch
  | lookupSwitch
  | wide
  deriving DecidableEq, Repr

/-- The shape an opcode has; some opcodes stand for no instruction. -/
def shape? (opcode : UInt8) : Option Shape :=
  let op := opcode.toNat
  if op ≤ 0x0f then some (.fixed 1)
  else if op = 0x10 then some (.fixed 2)
  else if op = 0x11 then some (.fixed 3)
  else if op = 0x12 then some (.fixed 2)
  else if op ≤ 0x14 then some (.fixed 3)
  else if op ≤ 0x19 then some (.fixed 2)
  else if op ≤ 0x35 then some (.fixed 1)
  else if op ≤ 0x3a then some (.fixed 2)
  else if op ≤ 0x83 then some (.fixed 1)
  else if op = 0x84 then some (.fixed 3)
  else if op ≤ 0x98 then some (.fixed 1)
  else if op ≤ 0xa8 then some (.fixed 3)
  else if op = 0xa9 then some (.fixed 2)
  else if op = 0xaa then some .tableSwitch
  else if op = 0xab then some .lookupSwitch
  else if op ≤ 0xb1 then some (.fixed 1)
  else if op ≤ 0xb8 then some (.fixed 3)
  else if op ≤ 0xba then some (.fixed 5)
  else if op = 0xbb then some (.fixed 3)
  else if op = 0xbc then some (.fixed 2)
  else if op = 0xbd then some (.fixed 3)
  else if op ≤ 0xbf then some (.fixed 1)
  else if op ≤ 0xc1 then some (.fixed 3)
  else if op ≤ 0xc3 then some (.fixed 1)
  else if op = 0xc4 then some .wide
  else if op = 0xc5 then some (.fixed 4)
  else if op ≤ 0xc7 then some (.fixed 3)
  else if op ≤ 0xc9 then some (.fixed 5)
  else if op = 0xca then some (.fixed 1)
  else if op = 0xfe then some (.fixed 1)
  else if op = 0xff then some (.fixed 1)
  else none

inductive LengthFault where
  | unsupported (opcode : UInt8)
  | missingWideOpcode
  | wordOutOfBounds
  | badTableRange
  | badPairCount
  deriving DecidableEq, Repr

/-- A byte as two lower-case hexadecimal digits. -/
def hexByte (b : UInt8) : String :=
  String.ofList [Nat.digitChar (b.toNat / 16), Nat.digitChar (b.toNat % 16)]

def LengthFault.message : LengthFault → String
  | .unsupported opcode => "unsupported opcode 0x" ++ hexByte opcode
  | .missingWideOpcode => "missing wide opcode"
  | .wordOutOfBounds => "bytecode i32 out of bounds"
  | .badTableRange => "invalid tableswitch range"
  | .badPairCount => "invalid lookupswitch pairs"

def padding (offset : Nat) : Nat := (4 - (offset + 1) % 4) % 4

/-- The signed word that starts at a position of the code. -/
def wordAt (code : Bytes) (position : Nat) : Except LengthFault Int :=
  match code.drop position with
  | a :: b :: c :: d :: _ => .ok (Bytes.signed32 (Bytes.toNat [a, b, c, d]))
  | _ => .error .wordOutOfBounds

def tableSwitchLength (offset : Nat) (code : Bytes) : Except LengthFault Nat := do
  let start := 1 + padding offset
  let low ← wordAt code (start + 4)
  let high ← wordAt code (start + 8)
  let count := high - low + 1
  if 0 ≤ count ∧ count < 2147483648 then .ok (start + 12 + 4 * count.toNat)
  else .error .badTableRange

def lookupSwitchLength (offset : Nat) (code : Bytes) : Except LengthFault Nat := do
  let start := 1 + padding offset
  let pairs ← wordAt code (start + 4)
  if 0 ≤ pairs then .ok (start + 8 + 8 * pairs.toNat) else .error .badPairCount

def iinc : UInt8 := 0x84

def wideLength (code : Bytes) : Except LengthFault Nat :=
  match code with
  | _ :: widened :: _ => .ok (if widened = iinc then 6 else 4)
  | _ => .error .missingWideOpcode

/-- The length of the instruction at the front of the code, which stands at the given offset of the
method. The empty code has none; its length is zero. -/
def length (offset : Nat) (code : Bytes) : Except LengthFault Nat :=
  match code with
  | [] => .ok 0
  | opcode :: _ =>
    match shape? opcode with
    | none => .error (.unsupported opcode)
    | some (.fixed n) => .ok n
    | some .tableSwitch => tableSwitchLength offset code
    | some .lookupSwitch => lookupSwitchLength offset code
    | some .wide => wideLength code

def lengthAt (body : Bytes) (offset : Nat) : Except LengthFault Nat :=
  length offset (body.drop offset)

end BytecodeLint.Bytecode
