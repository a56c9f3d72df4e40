import BytecodeLint.Proofs.Bytecode.Assembly
import BytecodeLint.Proofs.ClassFile.ConstantPool

/-!
# Decoding undoes assembly

`decode` finds in an assembled body the instructions it was assembled from, each at its own offset.
The argument is one instruction at a time, with arbitrary bytes behind it:

* `length_encode`: the length found for an instruction is the number of its bytes, wherever it
  stands. Only the two switches look at the offset and at operands for it.
* `operation_encode`: what is found for it is what its operands say.
* `decodeFrom_assemble`: so the decoder never loses the boundary between two instructions.

A body shorter than `2 ^ 32` bytes keeps the jumps of a switch below `2 ^ 30`, which is why no count
of theirs leaves the range of a signed word.
-/
namespace BytecodeLint.Bytecode
open Assembly

/-! ## Words -/

@[simp] theorem length_half (n : UInt16) : (half n).length = 2 := rfl

@[simp] theorem length_word (n : UInt32) : (word n).length = 4 := rfl

theorem toNat_half (n : UInt16) :
    (UInt8.ofNat (n.toNat / 256)).toNat * 256 + (UInt8.ofNat n.toNat).toNat = n.toNat := by
  have hn := n.toNat_lt
  rw [UInt8.toNat_ofNat', UInt8.toNat_ofNat']
  omega

theorem operandU16_half (opcode : UInt8) (n : UInt16) (rest : Bytes) :
    operandU16 (opcode :: (half n ++ rest)) = .ok n.toNat :=
  congrArg Except.ok (toNat_half n)

theorem toNat_word (n : UInt32) : Bytes.toNat (word n) = n.toNat := by
  have hn := n.toNat_lt
  simp only [word, Bytes.beU32, Bytes.toNat, List.foldl_cons, List.foldl_nil, UInt8.toNat_ofNat']
  omega

/-- The word behind some bytes is read as it was written. -/
theorem wordAt_word (front back : Bytes) (n : UInt32) (position : Nat)
    (h : position = front.length) :
    wordAt (front ++ (word n ++ back)) position = .ok (Bytes.signed32 n.toNat) := by
  subst h
  unfold wordAt
  rw [List.drop_left, ← toNat_word n]
  rfl

theorem signed32_toUInt32 (n : Int32) : Bytes.signed32 n.toUInt32.toNat = n.toInt := by
  have h : n.toInt = if 2 * n.toUInt32.toNat < 2 ^ 32 then (n.toUInt32.toNat : Int)
      else (n.toUInt32.toNat : Int) - ((2 ^ 32 : Nat) : Int) :=
    BitVec.toInt_eq_toNat_cond n.toBitVec
  rw [h]
  unfold Bytes.signed32
  split <;> split <;> omega

theorem signed32_of_lt {n : Nat} (h : n < 2147483648) : Bytes.signed32 n = n := if_pos h

/-- Pieces of one length, laid out one after the other. -/
theorem length_flatMap_const {α : Type} {f : α → Bytes} {k : Nat} (h : ∀ x, (f x).length = k)
    (xs : List α) : (xs.flatMap f).length = k * xs.length := by
  induction xs with
  | nil => rfl
  | cons x xs ih => rw [List.flatMap_cons, List.length_append, h, ih, List.length_cons]; grind

/-! ## Switches -/

/-- The decoder counts as many padding bytes as the assembler leaves. -/
theorem padding_eq_gap (offset : Nat) : padding offset = gap offset := by
  unfold padding gap; omega

theorem length_fill (fill : Fill) (offset : Nat) : (fill.bytes offset).length = gap offset := by
  simp only [Fill.bytes, List.length_take, List.length_cons, List.length_nil, gap]; omega

theorem length_table (table : JumpTable) :
    table.bytes.length = 12 + 4 * table.jumps.length := by
  simp only [JumpTable.bytes, List.length_append, length_word, length_flatMap_const length_word]

theorem length_pairs (otherwise : UInt32) (pairs : List (UInt32 × UInt32)) :
    (pairsBytes otherwise pairs).length = 8 + 8 * pairs.length := by
  simp only [pairsBytes, List.length_append, length_word]
  rw [length_flatMap_const (k := 8) fun _ => rfl]

theorem tableSwitchLength_encode (offset : Nat) (fill : Fill) (table : JumpTable) (rest : Bytes)
    (hfit : table.jumps.length < 2147483648) :
    tableSwitchLength offset ((Instr.tableSwitch fill table).encode offset ++ rest) =
      .ok ((Instr.tableSwitch fill table).encode offset).length := by
  have hfill := length_fill fill offset
  have hlow : wordAt ((Instr.tableSwitch fill table).encode offset ++ rest)
      (1 + padding offset + 4) = .ok table.low.toInt := by
    rw [← signed32_toUInt32]
    simpa [Instr.encode, Instr.opcode, Instr.operands, JumpTable.bytes] using
      wordAt_word (0xaa :: (fill.bytes offset ++ word table.otherwise))
        (word table.high.toUInt32 ++ (table.jumps.flatMap word ++ rest)) table.low.toUInt32 _
        (by simp [hfill, padding_eq_gap]; omega)
  have hhigh : wordAt ((Instr.tableSwitch fill table).encode offset ++ rest)
      (1 + padding offset + 8) = .ok table.high.toInt := by
    rw [← signed32_toUInt32]
    simpa [Instr.encode, Instr.opcode, Instr.operands, JumpTable.bytes] using
      wordAt_word (0xaa :: (fill.bytes offset ++ (word table.otherwise ++ word table.low.toUInt32)))
        (table.jumps.flatMap word ++ rest) table.high.toUInt32 _
        (by simp [hfill, padding_eq_gap]; omega)
  have hcount := table.complete
  unfold tableSwitchLength
  simp only [hlow, hhigh, bind, Except.bind]
  rw [if_pos (by omega)]
  simp only [Instr.encode, Instr.operands, List.length_cons, List.length_append, hfill,
    length_table, padding_eq_gap, Except.ok.injEq]
  omega

theorem lookupSwitchLength_encode (offset : Nat) (fill : Fill) (otherwise : UInt32)
    (pairs : List (UInt32 × UInt32)) (rest : Bytes) (hfit : pairs.length < 2147483648) :
    lookupSwitchLength offset ((Instr.lookupSwitch fill otherwise pairs).encode offset ++ rest) =
      .ok ((Instr.lookupSwitch fill otherwise pairs).encode offset).length := by
  have hfill := length_fill fill offset
  have hcount : wordAt ((Instr.lookupSwitch fill otherwise pairs).encode offset ++ rest)
      (1 + padding offset + 4) = .ok (pairs.length : Int) := by
    have hn : (UInt32.ofNat pairs.length).toNat = pairs.length := by
      rw [UInt32.toNat_ofNat']; omega
    rw [← signed32_of_lt hfit, ← hn]
    simpa [Instr.encode, Instr.opcode, Instr.operands, pairsBytes] using
      wordAt_word (0xab :: (fill.bytes offset ++ word otherwise))
        ((pairs.flatMap fun pair => word pair.1 ++ word pair.2) ++ rest)
        (UInt32.ofNat pairs.length) _ (by simp [hfill, padding_eq_gap]; omega)
  unfold lookupSwitchLength
  simp only [hcount, bind, Except.bind]
  rw [if_pos (by omega)]
  simp only [Instr.encode, Instr.operands, List.length_cons, List.length_append, hfill,
    length_pairs, padding_eq_gap, Except.ok.injEq]
  omega

/-! ## Opcodes -/

/-- An opcode with operands of a fixed size that names no member. -/
structure Unnamed (opcode : UInt8) (n : Nat) : Prop where
  shape : shape? opcode = some (.fixed n)
  field : fieldUse? opcode = none
  call : callKind? opcode = none

instance (opcode : UInt8) (n : Nat) : Decidable (Unnamed opcode n) :=
  decidable_of_iff (shape? opcode = some (.fixed n) ∧ fieldUse? opcode = none ∧
    callKind? opcode = none) ⟨fun h => ⟨h.1, h.2.1, h.2.2⟩, fun h => ⟨h.1, h.2, h.3⟩⟩

/-- The opcodes behind which a local variable that holds a reference may be named. -/
def mayLoad (opcode : UInt8) : Bool :=
  opcode == aload || (0x2a ≤ opcode && opcode ≤ 0x2d) || opcode == wide

theorem loadedLocal_none {opcode : UInt8} (h : mayLoad opcode = false) (operands : Bytes) :
    loadedLocal? (opcode :: operands) = none := by
  simp only [mayLoad, Bool.or_eq_false_iff, Bool.and_eq_false_imp, beq_eq_false_iff_ne,
    decide_eq_true_eq, decide_eq_false_iff_not] at h
  obtain ⟨⟨hload, hslot⟩, hwide⟩ := h
  simp only [loadedLocal?, if_neg hload, if_neg hwide]
  rw [if_neg fun hrange => hslot hrange.1 hrange.2]

theorem unnamed_bare (op : BareOp) :
    Unnamed op.opcode 1 ∧ loadedLocal? [op.opcode] = (Instr.bare op).slot? := by
  cases op with
  | load type slot => cases type <;> revert slot <;> decide
  | store type slot => cases type <;> revert slot <;> decide
  | arithmetic operator type => cases type <;> revert operator <;> decide
  | bits operator isLong => cases isLong <;> revert operator <;> decide
  | returnValue type => cases type <;> decide
  | constInt n => revert n; decide
  | constLong n => revert n; decide
  | constFloat n => revert n; decide
  | constDouble n => revert n; decide
  | loadElement type => revert type; decide
  | storeElement type => revert type; decide
  | stack move => revert move; decide
  | convert n => revert n; decide
  | compare n => revert n; decide
  | reserved n => revert n; decide
  | _ => decide

theorem unnamed_byte (op : ByteOp) : Unnamed op.opcode 2 := by
  cases op with
  | load type => cases type <;> decide
  | store type => cases type <;> decide
  | _ => decide

theorem unnamed_short (op : ShortOp) : Unnamed op.opcode 3 ∧ mayLoad op.opcode = false := by
  cases op with
  | branchZero condition => revert condition; decide
  | branchInt condition => revert condition; decide
  | branchReference condition => revert condition; decide
  | _ => decide

theorem length_fixed {opcode : UInt8} {n : Nat} (h : shape? opcode = some (.fixed n))
    (offset : Nat) (operands : Bytes) : length offset (opcode :: operands) = .ok n := by
  simp only [length, h]

/-- **Lengths.** The decoder finds the number of bytes of an instruction, whatever follows it. -/
theorem length_encode (offset : Nat) (i : Instr) (rest : Bytes)
    (hfit : (i.encode offset).length < 4294967296) :
    length offset (i.encode offset ++ rest) = .ok (i.encode offset).length := by
  cases i with
  | bare op => exact length_fixed (unnamed_bare op).1.shape ..
  | byte op operand => exact length_fixed (unnamed_byte op).shape ..
  | short op operand => exact length_fixed (unnamed_short op).1.shape ..
  | far op operand => cases op <;> rfl
  | increment slot amount => rfl
  | field use index => cases use <;> rfl
  | call op index => cases op <;> rfl
  | callInterface index count reserved => rfl
  | callDynamic index reserved => rfl
  | multiArray index dimensions => rfl
  | tableSwitch fill table =>
    have hlen : 4 * table.jumps.length < 4294967296 := by
      simp only [Instr.encode, Instr.operands, List.length_cons, List.length_append,
        length_table] at hfit
      omega
    exact tableSwitchLength_encode offset fill table rest (by omega)
  | lookupSwitch fill otherwise pairs =>
    have hlen : 8 * pairs.length < 4294967296 := by
      simp only [Instr.encode, Instr.operands, List.length_cons, List.length_append,
        length_pairs] at hfit
      omega
    exact lookupSwitchLength_encode offset fill otherwise pairs rest (by omega)
  | wide op slot =>
    cases op with
    | load type => cases type <;> rfl
    | store type => cases type <;> rfl
    | ret => rfl
  | wideIncrement slot amount => rfl

/-! ## Meaning -/

theorem operation_unnamed (pool : ConstantPool) {opcode : UInt8} (operands : Bytes)
    (hfield : fieldUse? opcode = none) (hcall : callKind? opcode = none) :
    operation pool (opcode :: operands) = .ok (loading (loadedLocal? (opcode :: operands))) := by
  simp only [operation, hfield, hcall]
  cases loadedLocal? (opcode :: operands) <;> rfl

theorem operation_field {pool : ConstantPool} {use : FieldUse} {index : UInt16} {m : MemberRef}
    (h : pool.member index.toNat = .ok m) (offset : Nat) :
    operation pool ((Instr.field use index).encode offset) = .ok (.field use m) := by
  have huse : fieldUse? (fieldOpcode use) = some use := by cases use <;> rfl
  have hindex := operandU16_half (fieldOpcode use) index []
  rw [List.append_nil] at hindex
  simp only [Instr.encode, Instr.opcode, Instr.operands, operation, huse, hindex, h, bind,
    Except.bind, mapError_ok]

theorem operation_call {pool : ConstantPool} (opcode : UInt8) {kind : CallKind} {index : UInt16}
    {m : MemberRef} (hfield : fieldUse? opcode = none) (hkind : callKind? opcode = some kind)
    (h : pool.member index.toNat = .ok m) (rest : Bytes) :
    operation pool (opcode :: (half index ++ rest)) = .ok (.invoke kind m) := by
  simp only [operation, hfield, hkind, operandU16_half opcode index rest, h, bind, Except.bind,
    mapError_ok]

/-- **Meaning.** The decoder finds what the operands of an instruction say. -/
theorem operation_encode {pool : ConstantPool} {target : Nat → MemberRef} (offset : Nat)
    (i : Instr) (h : ∀ n, i.member? = some n → pool.member n = .ok (target n)) :
    operation pool (i.encode offset) = .ok (i.meaning target) := by
  cases i with
  | bare op =>
    obtain ⟨hop, hslot⟩ := unnamed_bare op
    rw [Instr.encode, Instr.opcode, Instr.operands, operation_unnamed pool _ hop.field hop.call,
      hslot]
    rfl
  | byte op operand =>
    rw [Instr.encode, Instr.opcode, Instr.operands,
      operation_unnamed pool _ (unnamed_byte op).field (unnamed_byte op).call]
    cases op with
    | load type => cases type <;> rfl
    | store type => cases type <;> rfl
    | _ => rfl
  | short op operand =>
    obtain ⟨hop, hload⟩ := unnamed_short op
    rw [Instr.encode, Instr.opcode, Instr.operands, operation_unnamed pool _ hop.field hop.call,
      loadedLocal_none hload]
    rfl
  | far op operand => cases op <;> rfl
  | increment slot amount => rfl
  | field use index => exact operation_field (h _ rfl) offset
  | call op index =>
    have hfield : fieldUse? op.opcode = none := by cases op <;> rfl
    have hkind : callKind? op.opcode = some op.kind := by cases op <;> rfl
    have hcall := operation_call op.opcode hfield hkind (h _ rfl) []
    rwa [List.append_nil] at hcall
  | callInterface index count reserved =>
    exact operation_call 0xb9 rfl rfl (h _ rfl) [count, reserved]
  | callDynamic index reserved => rfl
  | multiArray index dimensions => rfl
  | tableSwitch fill table => rfl
  | lookupSwitch fill otherwise pairs => rfl
  | wide op slot =>
    cases op with
    | load type =>
      cases type with
      | reference =>
        exact congrArg (fun slot => Except.ok (Operation.load slot)) (toNat_half slot)
      | _ => rfl
    | store type => cases type <;> rfl
    | ret => rfl
  | wideIncrement slot amount => rfl

/-! ## Whole bodies -/

/-- One instruction is decoded and the decoder goes on behind it. -/
theorem decodeFrom_encode {pool : ConstantPool} {offset : Nat} {i : Instr} {op : Operation}
    {rest : Bytes} (hlen : length offset (i.encode offset ++ rest) = .ok (i.encode offset).length)
    (hop : operation pool (i.encode offset) = .ok op) :
    decodeFrom pool offset (i.encode offset ++ rest) =
      (decodeFrom pool (offset + (i.encode offset).length) rest).map
        fun later => ⟨offset, i.opcode, op⟩ :: later := by
  have hpos : (i.encode offset).length ≠ 0 := by simp [Instr.encode]
  rw [Instr.encode, List.cons_append, decodeFrom, ← List.cons_append, ← Instr.encode]
  simp only [hlen, List.take_left, List.drop_left, hop]
  rw [dif_neg (by omega)]

/-- The decoder keeps to the boundaries of an assembled body, from any offset on. -/
theorem decodeFrom_assemble {pool : ConstantPool} {target : Nat → MemberRef}
    (program : List Instr) (offset : Nat)
    (hfit : (assemble offset program).length < 4294967296)
    (htarget : ∀ i ∈ program, ∀ n, i.member? = some n → pool.member n = .ok (target n)) :
    decodeFrom pool offset (assemble offset program) = .ok (listing target offset program) := by
  induction program generalizing offset with
  | nil => rw [assemble, decodeFrom, listing]
  | cons i rest ih =>
    rw [assemble, List.length_append] at hfit
    have hlen := length_encode offset i
      (assemble (offset + (i.encode offset).length) rest) (by omega)
    have hop := operation_encode offset i (htarget i List.mem_cons_self)
    rw [assemble, decodeFrom_encode hlen hop,
      ih _ (by omega) fun j hj => htarget j (List.mem_cons_of_mem i hj), listing]
    rfl

/-- **Decoding undoes assembly.** In a body shorter than `2 ^ 32` bytes, assembled from any
instructions whose members the pool names, the decoder finds exactly these instructions, each with
its offset, its opcode and its meaning. -/
theorem decode_assemble {pool : ConstantPool} (target : Nat → MemberRef) (program : List Instr)
    (hfit : (assemble 0 program).length < 4294967296)
    (hnames : ∀ i ∈ program, ∀ n, i.member? = some n → pool.Names n (target n)) :
    decode pool (assemble 0 program) = .ok (listing target 0 program) :=
  decodeFrom_assemble program 0 hfit fun i hi n hn =>
    ConstantPool.member_eq_ok_iff.mpr (hnames i hi n hn)

/-- A body with both switches, at two alignments, and with the forms that share an opcode. The fill
and the jumps hold bytes that are opcodes of other instructions. -/
def mixedBody : List Instr :=
  [.bare (.load .reference 0),
    .tableSwitch ⟨0xc4, 0xaa, 0xb2⟩ ⟨0xb2b2b2b2, -1, 1, [0x19, 0xaaaaaaaa, 0], by decide, by decide⟩,
    .field .getField 1, .lookupSwitch ⟨1, 2, 3⟩ 7 [(0xc4c4c4c4, 0xb9)], .callInterface 1 0xb9 0xaa,
    .wide (.load .reference) 300, .wideIncrement 0xc4c4 0x1919, .bare .returnVoid]

/-- The member that the only reference of `mixedPool` names. -/
def mixedMember : MemberRef := ⟨"java/util/List", "size", "()I"⟩

def mixedPool : ConstantPool where
  entries := #[.unusable, .member 2 4, .classRef 3, .utf8 mixedMember.owner, .nameAndType 5 6,
    .utf8 mixedMember.name, .utf8 mixedMember.descriptor]

theorem decode_mixedBody :
    (assemble 0 mixedBody).length = 64 ∧ mixedPool.Names 1 mixedMember ∧
      decode mixedPool (assemble 0 mixedBody) = .ok
        [⟨0, 0x2a, .load 0⟩, ⟨1, 0xaa, .other⟩, ⟨28, 0xb4, .field .getField mixedMember⟩,
          ⟨31, 0xab, .other⟩, ⟨48, 0xb9, .invoke .interface mixedMember⟩, ⟨53, 0xc4, .load 300⟩,
          ⟨57, 0xc4, .other⟩, ⟨63, 0xb1, .other⟩] := by
  have hlen : (assemble 0 mixedBody).length = 64 := by decide
  have hname : mixedPool.Names 1 mixedMember := ⟨2, 4, 3, 5, 6, rfl, rfl, rfl, rfl, rfl, rfl⟩
  have hmember : ∀ i ∈ mixedBody, i.member? = none ∨ i.member? = some 1 := by decide
  refine ⟨hlen, hname, decode_assemble (fun _ => mixedMember) mixedBody (by omega) ?_⟩
  intro i hi n hn
  obtain h | h := hmember i hi
  · rw [h] at hn; cases hn
  · rw [h] at hn; cases hn; exact hname

/-! ## Coverage -/

def locals : List Local := [.int, .long, .float, .double, .reference]

def numbers : List Number := [.int, .long, .float, .double]

/-- One instruction for each opcode, in ascending order. -/
def samples : List Instr := List.flatten [
  [.bare .nop, .bare .constNull],
  (List.finRange 7).map fun n => .bare (.constInt n),
  (List.finRange 2).map fun n => .bare (.constLong n),
  (List.finRange 3).map fun n => .bare (.constFloat n),
  (List.finRange 2).map fun n => .bare (.constDouble n),
  [.byte .pushByte 0, .short .pushShort 0, .byte .constant 0, .short .constant 0,
    .short .longConstant 0],
  locals.map fun type => .byte (.load type) 0,
  locals.flatMap fun type => (List.finRange 4).map fun slot => .bare (.load type slot),
  (List.finRange 8).map fun type => .bare (.loadElement type),
  locals.map fun type => .byte (.store type) 0,
  locals.flatMap fun type => (List.finRange 4).map fun slot => .bare (.store type slot),
  (List.finRange 8).map fun type => .bare (.storeElement type),
  (List.finRange 9).map fun move => .bare (.stack move),
  (List.finRange 6).flatMap fun operator =>
    numbers.map fun type => .bare (.arithmetic operator type),
  (List.finRange 6).flatMap fun operator =>
    [false, true].map fun isLong => .bare (.bits operator isLong),
  [.increment 0 0],
  (List.finRange 15).map fun n => .bare (.convert n),
  (List.finRange 5).map fun n => .bare (.compare n),
  (List.finRange 6).map fun condition => .short (.branchZero condition) 0,
  (List.finRange 6).map fun condition => .short (.branchInt condition) 0,
  (List.finRange 2).map fun condition => .short (.branchReference condition) 0,
  [.short .goto 0, .short .jsr 0, .byte .ret 0,
    .tableSwitch ⟨0, 0, 0⟩ ⟨0, 0, 0, [0], by decide, by decide⟩, .lookupSwitch ⟨0, 0, 0⟩ 0 []],
  locals.map fun type => .bare (.returnValue type),
  [.bare .returnVoid, .field .getStatic 0, .field .putStatic 0, .field .getField 0,
    .field .putField 0, .call .virtual 0, .call .special 0, .call .static 0, .callInterface 0 0 0,
    .callDynamic 0 0, .short .new 0, .byte .newArray 0, .short .newArray 0, .bare .arrayLength,
    .bare .throw, .short .checkCast 0, .short .instanceOf 0, .bare .monitorEnter,
    .bare .monitorExit, .wide .ret 0, .multiArray 0 0, .short .branchNull 0,
    .short .branchNonNull 0, .far .goto 0, .far .jsr 0, .bare .breakpoint],
  (List.finRange 2).map fun n => .bare (.reserved n)]

/-- The opcodes of the samples are those that have a shape. -/
theorem opcode_samples : samples.map Instr.opcode =
    ((List.range 256).map UInt8.ofNat).filter fun opcode => (shape? opcode).isSome := by
  decide +kernel

theorem shape_opcode (i : Instr) : (shape? i.opcode).isSome = true := by
  cases i with
  | bare op => exact Option.isSome_of_eq_some (unnamed_bare op).1.shape
  | byte op operand => exact Option.isSome_of_eq_some (unnamed_byte op).shape
  | short op operand => exact Option.isSome_of_eq_some (unnamed_short op).1.shape
  | far op operand => cases op <;> rfl
  | field use index => cases use <;> rfl
  | call op index => cases op <;> rfl
  | _ => rfl

/-- Every opcode that the decoder gives a length to belongs to an instruction, and no other does. -/
theorem exists_opcode_eq_iff (opcode : UInt8) :
    (∃ i : Instr, i.opcode = opcode) ↔ (shape? opcode).isSome = true := by
  constructor
  · rintro ⟨i, rfl⟩
    exact shape_opcode i
  · intro h
    have hrange : opcode ∈ (List.range 256).map UInt8.ofNat :=
      List.mem_map.mpr ⟨opcode.toNat, List.mem_range.mpr opcode.toNat_lt, opcode.ofNat_toNat⟩
    have hmem : opcode ∈ samples.map Instr.opcode := by
      rw [opcode_samples]
      exact List.mem_filter.mpr ⟨hrange, h⟩
    obtain ⟨i, -, hi⟩ := List.mem_map.mp hmem
    exact ⟨i, hi⟩

end BytecodeLint.Bytecode
