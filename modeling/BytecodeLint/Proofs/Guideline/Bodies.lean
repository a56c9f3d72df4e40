import BytecodeLint.Guideline.Registry
import BytecodeLint.Proofs.Bytecode.Decode
import Mathlib.Data.List.Basic

/-!
# No operand is taken for an instruction

The bytes of a body hold opcodes and operands, and any opcode may also stand in an operand: in the
jumps of a switch, in the bytes before them, in the number of a constant. Some guidelines go by the
opcode of a decoded instruction, others by its operation. Both point at instructions of the program
that the body was assembled from, and at nothing else.

* `start`: the byte at which an instruction of a program starts, from the layout alone
  (`encode_prefix_drop`).
* `listing_eq`: decoding lists every instruction of the program at its start.
* `offsets_findings`: so a guideline that tells something about some instructions of the instruction
  set reports the starts of these instructions.
* `findings_on_assembled_body`: the instructions that four of the guidelines report, by mnemonic.
-/
namespace BytecodeLint

namespace Bytecode.Assembly

/-! ## Where instructions start -/

/-- The offset of instruction number `k`: the number of bytes of the instructions before it. -/
def start (program : List Instr) (k : Nat) : Nat := (assemble 0 (program.take k)).length

/-- The offsets of the instructions that `picks` picks, in order. -/
def offsetsOf (picks : Instr → Bool) (program : List Instr) : List Nat :=
  program.zipIdx.filterMap fun (i, k) => if picks i then some (start program k) else none

theorem assemble_append (offset : Nat) (front back : List Instr) :
    assemble offset (front ++ back) =
      assemble offset front ++ assemble (offset + (assemble offset front).length) back := by
  induction front generalizing offset with
  | nil => simp [assemble]
  | cons i front ih => simp [assemble, ih, Nat.add_assoc]

/-- Behind its start the assembled bytes go on with the bytes of an instruction. -/
theorem encode_prefix_drop {program : List Instr} {k : Nat} {i : Instr} (h : program[k]? = some i) :
    i.encode (start program k) <+: (assemble 0 program).drop (start program k) := by
  obtain ⟨hk, rfl⟩ := List.getElem?_eq_some_iff.1 h
  have hsplit : program = program.take k ++ program[k] :: program.drop (k + 1) := by
    rw [List.getElem_cons_drop, List.take_append_drop]
  have hbytes := assemble_append 0 (program.take k) (program[k] :: program.drop (k + 1))
  rw [← hsplit, Nat.zero_add, ← start, assemble] at hbytes
  rw [hbytes, start, List.drop_left]
  exact List.prefix_append ..

theorem listing_from (target : Nat → MemberRef) (offset : Nat) (program : List Instr) :
    listing target offset program = program.zipIdx.map fun (i, k) =>
      ⟨offset + (assemble offset (program.take k)).length, i.opcode, i.meaning target⟩ := by
  induction program generalizing offset with
  | nil => rfl
  | cons i rest ih =>
    rw [listing, ih, List.zipIdx_cons', List.map_cons, List.map_map]
    congr 1
    refine List.map_congr_left fun entry _ => ?_
    simp [assemble, Nat.add_assoc]

/-- Every instruction of a program is listed at its start. -/
theorem listing_eq (target : Nat → MemberRef) (program : List Instr) :
    listing target 0 program = program.zipIdx.map fun (i, k) =>
      ⟨start program k, i.opcode, i.meaning target⟩ := by
  rw [listing_from]
  simp [start]

/-! ## What guidelines look for -/

/-- Addition, subtraction, multiplication, division, remainder and negation of floats or doubles. -/
def Instr.isFloating : Instr → Bool
  | .bare (.arithmetic _ .float) => true
  | .bare (.arithmetic _ .double) => true
  | _ => false

/-- Calls through an interface. -/
def Instr.isInterfaceCall : Instr → Bool
  | .callInterface _ _ _ => true
  | _ => false

/-- The number of the constant that names the method an instruction calls. -/
def Instr.called? : Instr → Option Nat
  | .call _ index => some index.toNat
  | .callInterface index _ _ => some index.toNat
  | _ => none

/-- Calls of `iterator` on a list with random access. -/
def Instr.isIteratorCall (target : Nat → MemberRef) (i : Instr) : Bool :=
  i.called?.any fun n =>
    (target n).name = "iterator" ∧ (target n).descriptor = "()Ljava/util/Iterator;" ∧
      ((target n).owner = "java/util/ArrayList" ∨ (target n).owner = "java/util/List" ∨
        (target n).owner = "java/util/Vector")

/-- The number of the constant that names the static field an instruction assigns. -/
def Instr.assigned? : Instr → Option Nat
  | .field .putStatic index => some index.toNat
  | _ => none

/-- Assignments of a static field that the class does not declare, or whose first declaration is not
final. -/
def Instr.isOpenAssignment (target : Nat → MemberRef) (c : ClassDecl) (i : Instr) : Bool :=
  i.assigned?.any fun n => (c.field? (target n).name).all fun f => !f.access.isFinal

end Bytecode.Assembly

namespace Guideline

open Bytecode Assembly

/-! ## One instruction -/

theorem AvoidFloat.isSome_mnemonic? (i : Instr) :
    (mnemonic? i.opcode).isSome = i.isFloating := by
  cases i with
  | bare op =>
    cases op with
    | arithmetic operator type => cases type <;> revert operator <;> decide
    | load type slot => cases type <;> revert slot <;> decide
    | store type slot => cases type <;> revert slot <;> decide
    | bits operator isLong => cases isLong <;> revert operator <;> decide
    | returnValue type => cases type <;> decide
    | constInt n => revert n; decide
    | constLong n => revert n; decide
    | constFloat n => revert n; decide
    | constDouble n => revert n; decide
    | loadElement type => revert type; decide
    | storeElement type => revert type; decide
    | stack move => revert move; decide
    | convert n => revert n; decide
    | compare n => revert n; decide
    | reserved n => revert n; decide
    | _ => rfl
  | byte op operand =>
    cases op with
    | load type => cases type <;> rfl
    | store type => cases type <;> rfl
    | _ => rfl
  | short op operand =>
    have hshort : ∀ op : ShortOp, (mnemonic? op.opcode).isSome = false := by
      intro op
      cases op with
      | branchZero condition => revert condition; decide
      | branchInt condition => revert condition; decide
      | branchReference condition => revert condition; decide
      | _ => rfl
    exact hshort op
  | far op operand => cases op <;> rfl
  | field use index => cases use <;> rfl
  | call op index => cases op <;> rfl
  | _ => rfl

section
variable (target : Nat → MemberRef)

/-- An instruction calls a method, touches a field, or loads from a local variable at most. -/
theorem meaning_cases (i : Instr) :
    (∃ op index, i = .call op index) ∨
      (∃ index count reserved, i = .callInterface index count reserved) ∨
      (∃ use index, i = .field use index) ∨
      (i.called? = none ∧ i.isInterfaceCall = false ∧ i.assigned? = none ∧
        i.meaning target = loading i.slot?) := by
  cases i with
  | call op index => exact .inl ⟨op, index, rfl⟩
  | callInterface index count reserved => exact .inr (.inl ⟨index, count, reserved, rfl⟩)
  | field use index => exact .inr (.inr (.inl ⟨use, index, rfl⟩))
  | _ => exact .inr (.inr (.inr ⟨rfl, rfl, rfl, rfl⟩))

variable (c : ClassDecl) (m : MethodDecl) (offset : Nat) (i : Instr)

theorem AvoidFloat.isSome_message? :
    (message? c m ⟨offset, i.opcode, i.meaning target⟩).isSome = i.isFloating := by
  rw [message?, Option.isSome_map, isSome_mnemonic?]

theorem PreferVirtual.isSome_message? :
    (message? c m ⟨offset, i.opcode, i.meaning target⟩).isSome = i.isInterfaceCall := by
  rcases meaning_cases target i with ⟨op, index, rfl⟩ | ⟨index, count, reserved, rfl⟩ |
    ⟨use, index, rfl⟩ | ⟨-, hno, -, hload⟩
  · cases op <;> rfl
  · rfl
  · rfl
  · rw [hload, hno]
    cases i.slot? <;> rfl

theorem LoopIterator.isSome_message? :
    (message? c m ⟨offset, i.opcode, i.meaning target⟩).isSome = i.isIteratorCall target := by
  have hcall (kind : CallKind) (r : MemberRef) (opcode : UInt8) :
      (message? c m ⟨offset, opcode, .invoke kind r⟩).isSome =
        decide (r.name = "iterator" ∧ r.descriptor = "()Ljava/util/Iterator;" ∧
          (r.owner = "java/util/ArrayList" ∨ r.owner = "java/util/List" ∨
            r.owner = "java/util/Vector")) := by
    rw [message?, apply_ite Option.isSome]
    simp [asksForIterator, randomAccessTypes, Bool.and_assoc]
  rcases meaning_cases target i with ⟨op, index, rfl⟩ | ⟨index, count, reserved, rfl⟩ |
    ⟨use, index, rfl⟩ | ⟨hno, -, -, hload⟩
  · exact hcall op.kind (target index.toNat) _
  · exact hcall .interface (target index.toNat) _
  · rfl
  · rw [hload, Instr.isIteratorCall, hno]
    cases i.slot? <;> rfl

theorem ConstantFinal.isSome_message? :
    (message? c m ⟨offset, i.opcode, i.meaning target⟩).isSome = i.isOpenAssignment target c := by
  have hput (r : MemberRef) (opcode : UInt8) :
      (message? c m ⟨offset, opcode, .field .putStatic r⟩).isSome =
        (c.field? r.name).all fun f => !f.access.isFinal := by
    rw [message?, apply_ite Option.isSome, isFinalField]
    cases c.field? r.name <;> simp
  rcases meaning_cases target i with ⟨op, index, rfl⟩ | ⟨index, count, reserved, rfl⟩ |
    ⟨use, index, rfl⟩ | ⟨-, -, hno, hload⟩
  · rfl
  · rfl
  · cases use with
    | putStatic => exact hput (target index.toNat) _
    | _ => rfl
  · rw [hload, Instr.isOpenAssignment, hno]
    cases i.slot? <;> rfl

end

/-! ## One body -/

/-- A guideline that tells something about the picked instructions reports where they start. -/
theorem offsets_findings {target : Nat → MemberRef} {program : List Instr} {m : MethodDecl}
    (hbody : m.instructions = listing target 0 program) {message? : Instruction → Option String}
    {picks : Instr → Bool}
    (h : ∀ offset i, (message? ⟨offset, i.opcode, i.meaning target⟩).isSome = picks i) :
    (m.findings message?).map Finding.offset = offsetsOf picks program := by
  rw [MethodDecl.findings, hbody, listing_eq, List.filterMap_map, List.map_filterMap, offsetsOf]
  refine List.filterMap_congr fun (i, k) _ => ?_
  have hi := h (start program k) i
  cases hpick : picks i with
  | false =>
    rw [hpick, Option.isSome_eq_false_iff, Option.isNone_iff_eq_none] at hi
    simp [hi, hpick]
  | true =>
    rw [hpick] at hi
    obtain ⟨text, htext⟩ := Option.isSome_iff_exists.1 hi
    simp [htext, hpick, Finding.offset]

theorem method_of_mem_findings {m : MethodDecl} {message? : Instruction → Option String}
    {f : Finding} (h : f ∈ m.findings message?) : f.method = m := by
  obtain ⟨i, -, hi⟩ := List.mem_filterMap.1 h
  obtain ⟨text, -, rfl⟩ := Option.map_eq_some_iff.1 hi
  rfl

/-- On a class whose methods are some before `m`, `m` itself and some behind it, a guideline reports
what it reports on those before, then `m` at the given offsets, then what it reports on those
behind. -/
def ReportsOn (g : Guideline) (index : ClassIndex) (c : ClassDecl) (before : List MethodDecl)
    (m : MethodDecl) (after : List MethodDecl) (offsets : List Nat) : Prop :=
  ∃ front here back, g.check index c = .ok (front ++ here ++ back) ∧
    g.check index { c with methods := before } = .ok front ∧
    g.check index { c with methods := after } = .ok back ∧
    (∀ f ∈ here, f.method = m) ∧ here.map Finding.offset = offsets

def crowdedBody : List Instr :=
  [.tableSwitch ⟨0x62, 0xb9, 0xb3⟩
      ⟨0x62626262, 0, 1, [0x66666666, 0xb9000100], by decide, by decide⟩,
    .bare (.arithmetic 0 .float), .callInterface 1 0x62 0x62, .field .putStatic 7,
    .wide (.store .int) 0x6262, .bare (.arithmetic 5 .double), .bare .returnVoid]

/-- The two members that `crowdedPool` names. -/
def crowdedTarget (n : Nat) : MemberRef :=
  if n = 1 then ⟨"java/util/List", "iterator", "()Ljava/util/Iterator;"⟩ else ⟨"p/Q", "total", "I"⟩

def crowdedPool : ConstantPool where
  entries := #[.unusable, .member 2 4, .classRef 3, .utf8 "java/util/List", .nameAndType 5 6,
    .utf8 "iterator", .utf8 "()Ljava/util/Iterator;", .member 8 10, .classRef 9, .utf8 "p/Q",
    .nameAndType 11 12, .utf8 "total", .utf8 "I"]

def plainMethod : MethodDecl where
  name := "f"
  descriptor := "()V"
  instructions := [⟨0, 0x62, .other⟩, ⟨1, 0xb1, .other⟩]

def crowdedMethod (body : List Instruction) : MethodDecl where
  name := "<clinit>"
  descriptor := "()V"
  instructions := body

def crowdedClass (body : List Instruction) : ClassDecl where
  name := "p/Crowd"
  fields := [{ name := "total", descriptor := "I" }]
  methods := [plainMethod, crowdedMethod body]

end Guideline

end BytecodeLint
